import Mathlib.Logic.Relation
import SqlWire.Proofs.Session.SideBySide
import SqlWire.Proofs.Stream.Encoding
import SqlWire.Proofs.Stream.Unread

/-!
# What a server says in other words

A handshake begins with a preamble that is no frame. Behind it the streams of two connections are
related as the rewording says, and the other exchanges of a handshake are twins as all requests are
(`Rewording.opens_handshake`). Transcripts of the same calls are therefore the same, up to what is
left unread (`Rewording.drained_of`).

There are two rewordings. In `Rewording.rephrasing` the streams differ by one frame that is inserted
or cut as `Rephrased` permits, at a place that is counted from the preamble on : responses come in
the order of the requests, and the first request has the number one, so the number of a place is
that of the request which is outstanding when a client reads there. In `Rewording.parting` the
streams differ in all that comes behind some octets, which says something of connections that do not
read as far as that. `Restated` allows for both, and `Transcript.drained_of_restated` for any number
of such changes.
-/

namespace SqlWire

namespace Session

/-- The first exchange, written out. -/
theorem exchangeMark_eq (s : Session) : exchangeMark s =
    match Channel.write Preamble.mark s.channel with
    | (.failed e, c) => (.failed e, { s with channel := c })
    | (.suspended, c) => (.suspended, { s with channel := c })
    | (.done (), c) =>
      match Channel.read Preamble.size c with
      | (.failed e, c) => (.failed e, { s with channel := c, phase := .markSent })
      | (.suspended, c) => (.suspended, { s with channel := c, phase := .markSent })
      | (.done octets, c) =>
        match Preamble.decode octets with
        | .error e => (.failed e, { s with channel := c, phase := .markSent })
        | .ok preamble =>
          if preamble.refusal ≠ 0 then
            (.failed (.handshake (.preambleRefused preamble.refusal)),
              { s with channel := c, phase := .markSent })
          else
            (.done (), { s with
              channel := c
              phase := .orderAgreed
              order := preamble.order
              server := { s.server with preambleVersion := preamble.serverVersion } }) := by
  simp only [exchangeMark, onChannel, enter, Bind.bind, Action.bind, Action.within]
  rcases Channel.write Preamble.mark s.channel with ⟨_ | _ | _, c⟩
  · dsimp only [Action.modify]
    rcases Channel.read Preamble.size c with ⟨octets | _ | _, c⟩
    · dsimp only [Action.ofExcept]
      rcases Preamble.decode octets with e | preamble
      · rfl
      · dsimp only [Outcome.ofExcept]
        split <;> rfl
    · rfl
    · rfl
  · rfl
  · rfl

end Session

namespace Rewording

open Session

variable {w : Rewording}

/-! ## Connecting -/

theorem twin_enter (phase : Phase) : Action.Twin w.pairing (enter phase) :=
  twin_modify (fun _ => rfl) (fun _ => rfl) (fun _ => rfl) (fun _ => rfl) fun _ _ => rfl

/-- What the server says to the client key is judged alike. -/
theorem twin_exchangeKeys (clientKey : Octets) :
    Action.Twin w.pairing (exchangeKeys clientKey) := by
  refine (twin_enter _).bind fun _ => (twin_ask _ _).bind fun reply =>
    (Action.Twin.ofExcept _).bind fun _ => ?_
  dsimp only
  split
  · exact .fail _
  · exact Action.Twin.bind (twin_modify (fun _ => rfl) (fun _ => rfl) (fun _ => rfl) (fun _ => rfl)
      fun _ _ => rfl) fun _ => (twin_enter _).bind fun _ => .pure _

/-- What the server presents as its proof is judged alike. -/
theorem twin_authenticate (hasher : PasswordHasher) (options : Options) (clientKey : Octets)
    (keys : SessionKeys) :
    Action.Twin w.pairing (authenticate hasher options clientKey keys) := by
  refine (twin_enter _).bind fun _ => (twin_ask _ _).bind fun challenge => ?_
  dsimp only
  split
  · exact .fail _
  · exact twin_enter _

/-- What the server says to the login is judged alike. -/
theorem twin_login (hasher : PasswordHasher) (options : Options) (address : String) (zone : Int32)
    (keys : SessionKeys) : Action.Twin w.pairing (login hasher options address zone keys) :=
  (twin_enter _).bind fun _ => (twin_ask _ _).bind fun _ => (Action.Twin.ofExcept _).bind fun _ =>
    Action.Twin.bind (twin_modify (fun _ => rfl) (fun _ => rfl) (fun _ => rfl) (fun _ => rfl)
      fun _ _ => rfl) fun _ => twin_enter _

variable (w) in
/-- Two beginnings of a handshake come to the same. Only behind one that succeeds are the streams
related. -/
inductive Opens {α : Type} : Outcome α × Session → Outcome α × Session → Prop where
  | lost {x x' : Outcome α × Session} (lost : w.lost x.2.channel.unread) : Opens x x'
  | opened {a : α} {s s' : Session} (rel : w.pairing.rel s s') : Opens (.done a, s) (.done a, s')
  | stopped {outcome : Outcome α} {s : Session} {unread : Octets} (stops : outcome.isDone = false) :
      Opens (outcome, s) (outcome, s.reading unread)

/-- Behind two alike beginnings, what is a twin goes on alike. -/
theorem Opens.bind {α β : Type} {x : Action Session α} {f : α → Action Session β} {s s' : Session}
    (h : w.Opens (x s) (x s')) (hf : ∀ a, Action.Twin w.pairing (f a)) :
    w.Opens ((x >>= f) s) ((x >>= f) s') := by
  simp only [Bind.bind, Action.bind]
  generalize x s = first at h
  generalize x s' = second at h
  cases h with
  | lost lost =>
    refine .lost ?_
    rcases first with ⟨a | e | _, s₁⟩
    · exact (hf a).stays s₁ lost
    · exact lost
    · exact lost
  | @opened a s₁ s₁' rel =>
    rcases ((hf a).alike s₁ s₁' rel).split with lost | ⟨outcome, s₂, s₂', first, second, rel⟩
    · exact .lost lost
    · dsimp only
      rw [first, second]
      cases outcome with
      | done b => exact .opened rel
      | failed e =>
        obtain ⟨unread, rfl, -⟩ := rel
        exact .stopped rfl
      | suspended =>
        obtain ⟨unread, rfl, -⟩ := rel
        exact .stopped rfl
  | @stopped outcome s₁ unread stops =>
    cases outcome with
    | done a => cases stops
    | failed e => exact .stopped rfl
    | suspended => exact .stopped rfl

/-- The preamble is read alike, and the streams are related behind it. -/
theorem opens_exchangeMark {s : Session} {unread' : Octets}
    (h : w.start s.channel.unread unread') (first : s.seq = 0) :
    w.Opens (exchangeMark s) (exchangeMark (s.reading unread')) := by
  rw [← Channel.unread_write Preamble.mark s.channel] at h
  have beside : Channel.write Preamble.mark (s.reading unread').channel = _ :=
    Channel.write_reading Preamble.mark unread' s.channel
  rw [exchangeMark_eq s, exchangeMark_eq (s.reading unread'), beside]
  generalize Channel.write Preamble.mark s.channel = written at h ⊢
  rcases written with ⟨_ | _ | _, c⟩
  · have announced := w.preamble c unread' h
    dsimp only
    rcases ran : Channel.read Preamble.size c with ⟨outcome, c₁⟩
    rw [ran] at announced
    -- What is lost stays so, since nothing is read behind the preamble.
    rcases announced with lost | ⟨rest', second, between⟩
    · refine .lost ?_
      rcases outcome with octets | _ | _
      · dsimp only
        rcases Preamble.decode octets with _ | _
        · exact lost
        · dsimp only
          split <;> exact lost
      · exact lost
      · exact lost
    · rw [second]
      rcases outcome with octets | _ | _
      · dsimp only
        rcases decoded : Preamble.decode octets with e | preamble
        · exact .stopped rfl
        · dsimp only
          -- The order of the preamble is that of the session from here on.
          split
          · exact .stopped rfl
          · refine .opened ⟨rest', rfl, fun _ => ?_⟩
            simpa only [first] using between octets preamble rfl decoded
      · exact .stopped rfl
      · exact .stopped rfl
  · exact .stopped rfl
  · exact .stopped rfl

/-- A handshake comes to the same over streams that are related at the beginning. -/
theorem opens_handshake (hasher : PasswordHasher) (clientKey : Octets) (options : Options)
    (address : String) (zone : Int32) {s : Session} {unread' : Octets}
    (h : w.start s.channel.unread unread') (idle : s.phase = .idle) (first : s.seq = 0) :
    w.Opens (handshake hasher clientKey options address zone s)
      (handshake hasher clientKey options address zone (s.reading unread')) := by
  rw [handshake_of_idle idle, handshake_of_idle (s := s.reading unread') idle]
  exact (opens_exchangeMark h first).bind fun _ => (twin_exchangeKeys clientKey).bind fun keys =>
    (twin_authenticate hasher options clientKey keys).bind fun _ =>
      twin_login hasher options address zone keys

/-- Transcripts of the same calls over streams that a rewording relates. -/
theorem drained_of (hasher : PasswordHasher) (clientKey : Octets) (options : Options)
    (zone : Int32) (calls : List SessionCall) (channel : Channel) {unread' : Octets}
    (h : w.start channel.unread unread')
    (found : ¬w.lost (Transcript.of hasher clientKey options zone channel calls).channel.unread) :
    (Transcript.of hasher clientKey options zone (channel.reading unread') calls).drained =
      (Transcript.of hasher clientKey options zone channel calls).drained := by
  revert found
  unfold Transcript.of
  rcases valid : options.validate with e | _
  · rw [connect_of_invalid valid, connect_of_invalid valid]
    exact fun _ => rfl
  · have beside : fresh options (channel.reading unread') =
        (fresh options channel).reading unread' := rfl
    have opens := opens_handshake hasher clientKey options
      (options.clientAddress.getD unknownAddress) zone (s := fresh options channel) h rfl rfl
    rw [connect_of_valid valid, connect_of_valid valid, beside]
    generalize handshake hasher clientKey options (options.clientAddress.getD unknownAddress) zone
      (fresh options channel) = x at opens ⊢
    generalize handshake hasher clientKey options (options.clientAddress.getD unknownAddress) zone
      ((fresh options channel).reading unread') = x' at opens ⊢
    intro found
    cases opens with
    | lost lost =>
      obtain ⟨_ | _ | _, s⟩ := x
      · exact absurd (w.lost_of_suffix (stable_advances.run calls s) lost) found
      · simp only [giveUp_eq] at found
        split_ifs at found <;> exact absurd lost found
      · exact absurd lost found
    | @opened u s s' rel =>
      rcases ends_run calls rel with lost | ⟨reports, unread₁, last, -⟩
      · exact absurd lost found
      · obtain ⟨unread₀, rfl, -⟩ := rel
        dsimp only at reports last
        simp only [Transcript.drained, reports, last]
        rfl
    | @stopped outcome s unread stops =>
      cases outcome with
      | done a => cases stops
      | failed e =>
        simp only [giveUp_eq, reading, Channel.reading]
        split_ifs <;> rfl
      | suspended => rfl

/-! ## Two rewordings -/

/-- The same is said in other frames behind the preamble. -/
def rephrasing : Rewording where
  start unread unread' := ∃ octets preamble rest rest',
    octets.length = Preamble.size ∧ Preamble.decode octets = .ok preamble ∧
    unread = octets ++ rest ∧ unread' = octets ++ rest' ∧
    Rephrased preamble.order ⟨1, []⟩ rest rest'
  between order seq := Rephrased order ⟨seq + 1, []⟩
  lost _ := False
  lost_of_suffix _ lost := lost
  preamble := by
    rintro c _ ⟨octets, preamble, rest, rest', size, decoded, unread, rfl, rel⟩
    have first : Channel.read Preamble.size c = (.done octets, c.reading rest) :=
      Channel.read_eq_done_iff.2 ⟨size, by simp only [Channel.behind, Channel.reading, ← unread]⟩
    have second : Channel.read Preamble.size (c.reading (octets ++ rest')) =
        (.done octets, c.reading rest') :=
      Channel.read_eq_done_iff.2 ⟨size, rfl⟩
    refine Or.inr ⟨rest', by rw [first, second]; rfl, ?_⟩
    rw [first]
    rintro _ preamble' ⟨⟩ decoded'
    rw [decoded] at decoded'
    cases decoded'
    exact rel
  response order seq c unread' rel :=
    Or.inr (Channel.receive_of_rephrased rel 0 0 c)

/-- Something else is said at the end. -/
def parting (tail tail' : Octets) (some : tail ≠ []) : Rewording where
  start unread unread' := ∃ octets, unread = octets ++ tail ∧ unread' = octets ++ tail'
  between _ _ unread unread' := ∃ octets, unread = octets ++ tail ∧ unread' = octets ++ tail'
  lost unread := unread.length < tail.length
  lost_of_suffix suffix lost := Nat.lt_of_le_of_lt suffix.length_le lost
  preamble := by
    rintro c _ ⟨octets, shared, rfl⟩
    refine ((Channel.twin_read some tail' Preamble.size).alike c _
      ⟨octets, shared, rfl⟩).imp_right ?_
    rintro ⟨outcome, octets', shared', second⟩
    exact ⟨octets' ++ tail', Prod.ext outcome second, fun _ _ _ _ => ⟨octets', shared', rfl⟩⟩
  response := by
    rintro order seq c _ ⟨octets, shared, rfl⟩
    refine ((Channel.twin_receive some tail' order { seq := seq + 1 }).alike c _
      ⟨octets, shared, rfl⟩).split.imp_right ?_
    rintro ⟨outcome, c₁, _, first, second, octets', shared', rfl⟩
    rw [first, second]
    cases outcome with
    | done response => exact .answered rfl rfl ⟨octets', shared', rfl⟩
    | failed e => exact .stopped rfl
    | suspended => exact .stopped rfl

end Rewording

/-! ## Transcripts -/

namespace Transcript

/-- The transcript if `unread` is what the server says. -/
def hearing (hasher : PasswordHasher) (clientKey : Octets) (options : Options) (zone : Int32)
    (channel : Channel) (calls : List SessionCall) (unread : Octets) : Transcript :=
  .of hasher clientKey options zone (channel.reading unread) calls

/-- A server says the same in other frames, or something else where it is not heard. -/
inductive Restated (transcript : Octets → Transcript) : Octets → Octets → Prop where
  /-- Behind the preamble one frame of another request is inserted, or one frame of a response that
  is within the limit is cut. -/
  | rephrased {octets rest rest' : Octets} {preamble : Preamble}
      (whole : octets.length = Preamble.size) (decodes : Preamble.decode octets = .ok preamble)
      (behind : Rephrased preamble.order ⟨1, []⟩ rest rest') :
      Restated transcript (octets ++ rest) (octets ++ rest')
  /-- The connection leaves the end of the first stream unread. -/
  | unheard {heard tail tail' : Octets} (some : tail ≠ [])
      (left : (transcript (heard ++ tail)).channel.unread = tail) :
      Restated transcript (heard ++ tail) (heard ++ tail')

/-- Whatever is inserted or cut, and however often, the connection is opened with the same outcome,
every call has the same outcome, writes the same octets and leaves the session broken or not. -/
theorem drained_of_restated (hasher : PasswordHasher) (clientKey : Octets) (options : Options)
    (zone : Int32) (channel : Channel) (calls : List SessionCall) {unread unread' : Octets}
    (h : Relation.EqvGen (Restated (hearing hasher clientKey options zone channel calls))
      unread unread') :
    (hearing hasher clientKey options zone channel calls unread').drained =
      (hearing hasher clientKey options zone channel calls unread).drained := by
  induction h with
  | rel unread unread' h =>
    cases h with
    | rephrased whole decodes behind =>
      exact Rewording.drained_of (w := .rephrasing) hasher clientKey options zone calls
        (channel.reading _) ⟨_, _, _, _, whole, decodes, rfl, rfl, behind⟩ id
    | @unheard heard tail tail' some left =>
      refine Rewording.drained_of (w := .parting tail tail' some) hasher clientKey options zone
        calls (channel.reading _) ⟨heard, rfl, rfl⟩ ?_
      have behind : (Transcript.of hasher clientKey options zone
        (channel.reading (heard ++ tail)) calls).channel.unread = tail := left
      rw [behind]
      exact Nat.lt_irrefl _
  | refl unread => rfl
  | symm _ _ _ ih => exact ih.symm
  | trans _ _ _ _ _ ih ih' => exact ih'.trans ih

/-- A guest is let in and makes one call. It is the same to the guest that the reply to its key
comes in two frames, that the announcement of an error stands between them, and what comes at the
end. -/
theorem drained_of_restated_guest :
    let header : Header := ⟨0, 0, 0, (0, 0, 0), 1⟩
    let payload := Wire.encode .big [.u32 0, .u32 1, .field [1, 2, 3], .u32 1]
    let whole := Frame.encode .big ⟨header, payload⟩
    let piece := Frame.encode .big ⟨header.withMore, payload.take 5⟩
    let piece' := Frame.encode .big ⟨header, payload.drop 5⟩
    let foreign := Frame.encode .big ⟨⟨0, 7, 0x0100, (0, 0, 0), 9⟩, [6]⟩
    let others := Response.success 2 [.field [7]] ++
      Response.success 3 [.u32 0, .u32 1, .field []] ++ Response.success 4 []
    let heard := hearing Session.trusting [1, 2, 3] Session.guest 3600 { unread := [] } [.ping]
    let plain := Preamble.accepting .big 1 ++ (whole ++ (others ++ [8]))
    let reworded :=
      Preamble.accepting .big 1 ++ (piece ++ (foreign ++ (piece' ++ (others ++ [5, 5]))))
    (heard plain).connected.isDone = true ∧ (heard plain).reports.map (·.broken) = [false] ∧
      Relation.EqvGen (Restated heard) plain reworded ∧
      (heard reworded).drained = (heard plain).drained := by
  intro header payload whole piece piece' foreign others heard plain reworded
  have chain (frame : Frame) (small : frame.length ≤ Frame.maxLength) :
      Frame.Chain .big (frame.encode .big) [frame] :=
    Frame.chain_encode small
  have decodes := Preamble.decode_accepting .big 1
  have wholes := chain ⟨header, payload⟩ (by decide)
  have pieces := chain ⟨header.withMore, payload.take 5⟩ (by decide)
  have pieces' := chain ⟨header, payload.drop 5⟩ (by decide)
  have foreigns := chain ⟨⟨0, 7, 0x0100, (0, 0, 0), 9⟩, [6]⟩ (by decide)
  have cut : Rephrased .big ⟨1, []⟩ (whole ++ (others ++ [8]))
      (piece ++ piece' ++ (others ++ [8])) :=
    .cut wholes (pieces.append pieces') rfl
      { headers := by decide
        linked := ⟨[_], _, rfl, by decide, by decide⟩
        payload := by decide }
      (Standing.fits_of_length_le (by decide +kernel))
  have inserted : Rephrased .big ⟨1, []⟩ (piece ++ (piece' ++ (others ++ [8])))
      (piece ++ (foreign ++ (piece' ++ (others ++ [8])))) :=
    .behind pieces (.inserted foreigns (by decide))
  have ending : Restated heard
      (Preamble.accepting .big 1 ++ piece ++ foreign ++ piece' ++ others ++ [8])
      (Preamble.accepting .big 1 ++ piece ++ foreign ++ piece' ++ others ++ [5, 5]) :=
    .unheard (by decide) (by decide +kernel)
  have joined : Relation.EqvGen (Restated heard) plain reworded := by
    refine .trans _ _ _ (.rel _ _ (.rephrased rfl decodes cut)) ?_
    rw [List.append_assoc piece]
    refine .trans _ _ _ (.rel _ _ (.rephrased rfl decodes inserted)) (.rel _ _ ?_)
    simp only [List.append_assoc] at ending
    exact ending
  exact ⟨by decide +kernel, by decide +kernel, joined,
    drained_of_restated _ _ _ _ _ _ joined⟩

end Transcript

end SqlWire
