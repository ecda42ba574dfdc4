import SqlWire.Proofs.Session.Exchange
import SqlWire.Reply

/-!
# What replies hold

`Reader.Yields P r` says that everything the reader `r` gives has the property `P`, whatever the
octets are. It is proved of a long reader by way of its parts (`Yields.bind`, `Yields.replicate`).

A batch that was cut by a number of columns has rows of so many cells (`yields_readBatch`). The rows
of an execution are cut by the columns that its reply describes, or else by those known before, and
without either there are none (`yields_executeReply`).
-/

namespace SqlWire

namespace Wire.Reader

variable {α β : Type} {P : α → Prop} {Q : β → Prop}

/-- Everything that this reader gives has the property. -/
def Yields (P : α → Prop) (r : Reader α) : Prop :=
  ∀ order left a, (r order left).1 = .ok a → P a

theorem Yields.any (r : Reader α) : Yields (fun _ => True) r :=
  fun _ _ _ _ => trivial

theorem Yields.pure {a : α} (h : P a) : Yields P (Pure.pure a : Reader α) := by
  rintro order left _ ⟨⟩
  exact h

theorem Yields.malformed (fault : Malformation) : Yields P (malformed fault : Reader α) :=
  fun _ _ _ => nofun

/-- What a reader yields may depend on what the one before it has yielded. -/
theorem Yields.bind {r : Reader α} {f : α → Reader β} (hr : Yields P r)
    (hf : ∀ a, P a → Yields Q (f a)) : Yields Q (r >>= f) := by
  intro order left b h
  simp only [Bind.bind, Reader.bind] at h
  split at h
  · next a left' ha => exact hf a (hr order left a (by rw [ha])) order left' b h
  · cases h

/-- What is read before and does not matter. -/
theorem Yields.after {r : Reader α} {f : α → Reader β} (hf : ∀ a, Yields Q (f a)) :
    Yields Q (r >>= f) :=
  (Yields.any r).bind fun a _ => hf a

/-- A reader that is used so many times yields so many values. -/
theorem Yields.replicate {r : Reader α} (hr : Yields P r) (n : Nat) :
    Yields (fun as => as.length = n ∧ ∀ a ∈ as, P a) (replicate n r) := by
  -- The values read so far are in reverse, and they have the property too.
  suffices go : ∀ n read, (∀ a ∈ read, P a) →
      Yields (fun as => as.length = read.length + n ∧ ∀ a ∈ as, P a) (replicate.go r n read) by
    have all := go n [] nofun
    rw [List.length_nil] at all
    simpa only [Nat.zero_add, Reader.replicate] using all
  intro n
  induction n with
  | zero =>
    intro read hread
    exact Yields.pure ⟨List.length_reverse, fun a ha => hread a (List.mem_reverse.1 ha)⟩
  | succ n ih =>
    intro read hread
    refine Yields.bind hr fun a ha => ?_
    have rest := ih (a :: read) (List.forall_mem_cons.2 ⟨ha, hread⟩)
    rwa [List.length_cons, Nat.add_right_comm] at rest

end Wire.Reader

open Wire Reader

/-! ## Rows -/

/-- Every row has so many cells. -/
def Row.AllOf (columns : Nat) (rows : List Row) : Prop :=
  ∀ row ∈ rows, row.length = columns

/-- A row has a cell for each column. -/
theorem Row.yields_read (columns : Nat) : Yields (·.length = columns) (Row.read columns) :=
  fun order left row h => ((Yields.any nullable).replicate columns order left row h).1

/-- All rows of a batch have a cell for each column. -/
theorem Row.yields_readBatch (columns : Nat) :
    Yields (Row.AllOf columns) (Row.readBatch columns) := by
  refine Yields.after fun count => Yields.after fun left => ?_
  split_ifs
  · exact Yields.malformed _
  · exact Yields.malformed _
  · exact fun order left rows h => ((yields_read columns).replicate _ order left rows h).2

/-- Rows without columns are refused, so there are none. -/
theorem Row.yields_readBatch_zero : Yields (· = []) (Row.readBatch 0) := by
  refine Yields.after fun count => Yields.after fun left => ?_
  split_ifs with some
  · exact Yields.malformed _
  · exact Yields.malformed _
  · have none : count.toNat = 0 := by omega
    intro order left rows h
    have len := ((yields_read 0).replicate _ order left rows h).1
    exact List.eq_nil_of_length_eq_zero (len.trans none)

/-! ## Replies -/

/-- What is there only under a condition is as the reader yields it. -/
theorem Wire.Reader.yields_readIf {α : Type} {P : α → Prop} {r : Reader α} (present : Bool)
    (h : Yields P r) : Yields (fun found => ∀ a, found = some a → P a) (readIf present r) := by
  cases present with
  | true => exact h.bind fun a ha => .pure fun _ same => Option.some.inj same ▸ ha
  | false => exact .pure nofun

/-- By how many columns the rows of a reply are cut, if so many were known before. -/
def ExecuteReply.width? (reply : ExecuteReply) (known : Option Nat) : Option Nat :=
  (reply.columns.map List.length).or known

/-- Rows have a cell for each column of the reply, or else for each column that was known. -/
theorem yields_readRows (columns : Option (List Descriptor)) (known : Option Nat) :
    Yields (fun rows => ∃ width, (columns.map List.length).or known = some width ∧
      Row.AllOf width rows) (readRows columns known) := by
  have cut (width : Nat) (h : (columns.map List.length).or known = some width) :
      Yields (fun rows => ∃ width, (columns.map List.length).or known = some width ∧
        Row.AllOf width rows) (Row.readBatch width) :=
    fun order left rows ok => ⟨width, h, Row.yields_readBatch width order left rows ok⟩
  cases columns with
  | some columns => exact cut columns.length rfl
  | none =>
    cases known with
    | some known => exact cut known rfl
    | none => exact .malformed _

/-- The rows of an execution have the columns of its reply, or those that are known of the query. -/
theorem yields_executeReply (charset : Charset) (known : Option Nat) :
    Yields (fun reply => ∀ rows, reply.rows = some rows →
      ∃ width, reply.width? known = some width ∧ Row.AllOf width rows)
      (ExecuteReply.read charset known) :=
  Yields.after fun _ => Yields.after fun _ => Yields.after fun _ => Yields.after fun columns =>
    (yields_readIf _ (yields_readRows columns known)).bind fun _ cut => .pure cut

/-- All rows of a fetch have a cell for each column. -/
theorem yields_fetchReply (columns : Nat) :
    Yields (fun reply => Row.AllOf columns reply.rows) (FetchReply.read columns) :=
  Yields.after fun _ => (Row.yields_readBatch columns).bind fun _ cut => .pure cut

/-- For a result without columns a fetch brings no rows. -/
theorem yields_fetchReply_zero : Yields (·.rows = []) (FetchReply.read 0) :=
  Yields.after fun _ => Row.yields_readBatch_zero.bind fun _ none => .pure none

/-- What is read of an answer has the property of its reader. -/
theorem Session.yields_ask {α : Type} {P : α → Prop} {reader : Reader α} {r : Request}
    {s s' : Session} {a : α} (h : Yields P reader) (asked : ask r reader s = (.done a, s')) :
    P a := by
  simp only [ask, Action.bind_eq_done_iff, Action.get_apply, Action.ofExcept_apply, Prod.mk.injEq,
    Action.ofExcept_eq_done_iff] at asked
  obtain ⟨payload, _, -, _, _, -, hread, -⟩ := asked
  exact h _ payload a hread

end SqlWire
