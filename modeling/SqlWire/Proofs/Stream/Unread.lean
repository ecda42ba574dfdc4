import SqlWire.Proofs.Stream.Rephrasing
import SqlWire.Proofs.Twin

/-!
# What is not read

Two channels whose streams part at some place are a pairing (`Channel.parting`) that is lost once
something behind that place was read. Reading octets, frames and responses are twins for it : as
long as they keep to what the two streams share, it has no part in them what follows.
-/

namespace SqlWire

namespace Channel

/-- Two channels that are the same but for what is read behind some octets. -/
def parting (tail tail' : Octets) : Pairing Channel where
  rel c c' := ∃ octets, c.unread = octets ++ tail ∧ c' = c.reading (octets ++ tail')
  lost c := c.unread.length < tail.length

variable {tail tail' : Octets}

theorem Consumes.lost {c c' : Channel} (h : Consumes c c') (lost : (parting tail tail').lost c) :
    (parting tail tail').lost c' := by
  obtain ⟨octets, rfl⟩ := h
  simp only [parting, behind, List.length_append] at lost ⊢
  omega

/-- A read that does not come to the octets behind cannot tell them apart. -/
theorem twin_read (some : tail ≠ []) (tail' : Octets) (n : Nat) :
    Action.Twin (parting tail tail') (read n) := by
  refine ⟨fun c => (consumes_read n c).lost, ?_⟩
  rintro c _ ⟨octets, shared, rfl⟩
  by_cases enough : n ≤ octets.length
  · have here : n ≤ (octets ++ tail).length := by rw [List.length_append]; omega
    have there : n ≤ (octets ++ tail').length := by rw [List.length_append]; omega
    refine Or.inr ?_
    simp only [read, reading, shared, if_pos here, if_pos there,
      List.take_append_of_le_length enough, List.drop_append_of_le_length enough]
    exact ⟨trivial, octets.drop n, rfl, rfl⟩
  · refine Or.inl ?_
    have behind := List.length_pos_iff.2 some
    simp only [parting, read, shared]
    split
    · simp only [List.length_drop, List.length_append]
      omega
    · exact behind

/-- The reading of a frame cannot tell them apart either. -/
theorem twin_readFrame (some : tail ≠ []) (tail' : Octets) (order : ByteOrder) :
    Action.Twin (parting tail tail') (readFrame order) :=
  (twin_read some tail' _).bind fun _ => (Action.Twin.ofExcept _).bind fun _ =>
    (twin_read some tail' _).bind fun _ => .ofExcept _

/-- Nor can the reception of a response, whatever the assembler holds. -/
theorem twin_receive (some : tail ≠ []) (tail' : Octets) (order : ByteOrder)
    (assembler : Assembler) :
    Action.Twin (parting tail tail') (receive order assembler) := by
  refine ⟨fun c => (consumes_receive order assembler c).lost, fun c c' rel => ?_⟩
  -- Every frame is read from what is left of the first stream.
  induction hn : c.left using Nat.strongRecOn generalizing c c' assembler with
  | _ n ih =>
    rcases ((twin_readFrame some tail' order).alike c c' rel).split with
      lost | ⟨outcome, c₁, c₁', first, second, rel'⟩
    · refine Or.inl ?_
      rcases hr : readFrame order c with ⟨frame | e | _, c₁⟩ <;> rw [hr] at lost
      · rw [receive_of_readFrame hr]
        split
        · exact lost
        · exact (consumes_receive order _ c₁).lost lost
        · exact lost
      · rwa [receive_of_failed hr]
      · rwa [receive_of_suspended hr]
    · cases outcome with
      | done frame =>
        have shorter : c₁.left < n := hn ▸ left_lt_of_readFrame first
        rw [receive_of_readFrame first, receive_of_readFrame second]
        split
        · exact Or.inr ⟨rfl, rel'⟩
        · exact ih _ shorter _ c₁ c₁' rel' rfl
        · exact Or.inr ⟨rfl, rel'⟩
      | failed e =>
        rw [receive_of_failed first, receive_of_failed second]
        exact Or.inr ⟨rfl, rel'⟩
      | suspended =>
        rw [receive_of_suspended first, receive_of_suspended second]
        exact Or.inr ⟨rfl, rel'⟩

end Channel

end SqlWire
