import SqlWire.Proofs.Session.Handshake
import SqlWire.Proofs.Session.Runs

/-!
# The place in the stream

`Conversation order read written n` is the record of a connection whose preamble was answered and
whose `n` requests were, each by complete frames of its own. A session is in sync with the channel
it was opened over if what it has read and written since is such a record (`Session.InSync`).

A session that is not broken is in sync, whatever was called on it (`run_keepsPlace`). The
invariant is kept by requests : an exchange adds one entry to the record, and an interruption
breaks the session (`settles`). Once it is broken, a session neither reads nor writes
(`stable_latched`).
-/

namespace SqlWire

/-- The preamble and `n` exchanges, as what was read of the server and what was written to it. The
exchanges are numbered from one, and each is a whole request with the complete frames that answer
its number. -/
inductive Conversation (order : ByteOrder) : (read written : Octets) → Nat → Prop where
  | opened {preamble : Octets} (size : preamble.length = Preamble.size) :
      Conversation order preamble Preamble.mark 0
  | exchanged {read written octets : Octets} {n : Nat} {frames : List Frame} {response : Response}
      (before : Conversation order read written n)
      (r : Request) (charset : Charset) (capacity : UInt32)
      (chain : Frame.Chain order octets frames)
      (answers : Response.Answers (UInt32.ofNat (n + 1)) frames response) :
      Conversation order (read ++ octets)
        (written ++ r.octets order charset capacity (UInt32.ofNat (n + 1))) (n + 1)

/-- A conversation reads the preamble and then nothing but complete frames. -/
theorem Conversation.exists_chain {order : ByteOrder} {read written : Octets} {n : Nat}
    (h : Conversation order read written n) : ∃ preamble octets frames,
      preamble.length = Preamble.size ∧ read = preamble ++ octets ∧
        Frame.Chain order octets frames := by
  induction h with
  | opened size => exact ⟨_, [], [], size, by simp, .nil⟩
  | exchanged _ _ _ _ chain _ ih =>
    obtain ⟨preamble, octets, frames, size, rfl, chain'⟩ := ih
    exact ⟨preamble, _, _, size, List.append_assoc _ _ _, chain'.append chain⟩

namespace Session

/-- All that a session has read and written since `start` is a conversation, and the number of its
last request is the length of it. -/
def InSync (start : Channel) (s : Session) : Prop :=
  ∃ read written n, Conversation s.order read written n ∧ start.unread = read ++ s.channel.unread ∧
    s.channel.sent = start.sent ++ written ∧ s.seq = UInt32.ofNat n

variable {start : Channel} {s s' : Session} {r : Request} {response : Response}

/-- An exchange adds one entry to the record. -/
theorem Exchanges.inSync (exchange : Exchanges r response s s') (h : InSync start s) :
    InSync start s' := by
  obtain ⟨read, written, n, talk, hread, hwritten, hseq⟩ := h
  obtain ⟨-, octets, frames, c, chain, answers, split, rfl⟩ := exchange
  have number : s.seq + 1 = UInt32.ofNat (n + 1) := by rw [hseq, UInt32.ofNat_add]; rfl
  have unread : s.channel.unread = octets ++ c.unread := congrArg Channel.unread split
  have sent : c.sent = s.channel.sent ++ s.octetsOf r := (congrArg Channel.sent split).symm
  rw [number] at answers
  refine ⟨read ++ octets, _, n + 1,
    talk.exchanged r s.charset s.server.capacity chain answers, ?_, ?_, number⟩
  · rw [hread, unread, List.append_assoc]
  · rw [sent, hwritten, octetsOf, number, List.append_assoc]

/-- A session in sync stands behind the preamble and complete frames. -/
theorem InSync.exists_chain (h : InSync start s) : ∃ preamble octets frames,
    preamble.length = Preamble.size ∧ start.unread = preamble ++ octets ++ s.channel.unread ∧
      Frame.Chain s.order octets frames := by
  obtain ⟨_, _, _, talk, hread, -, -⟩ := h
  obtain ⟨preamble, octets, frames, size, rfl, chain⟩ := talk.exists_chain
  exact ⟨preamble, octets, frames, size, hread, chain⟩

/-- If the session is not broken it is in sync. -/
def Synchronised (start : Channel) (s : Session) : Prop :=
  s.broken = false → InSync start s

/-- No call on a session that is in sync, or broken, makes it anything else. -/
theorem stable_synchronised (start : Channel) :
    Stable fun s s' => Synchronised start s → Synchronised start s' where
  refl _ h := h
  trans h h' hs := h' (h hs)
  request r s h := by
    cases hb : s.broken with
    | true =>
      rw [request_of_broken hb]
      exact h
    | false =>
      rcases request_cases hb r with ⟨response, s', exchange, heq⟩ | ⟨-, c, hs'⟩
      · rw [heq]
        exact fun _ => exchange.inSync (h hb)
      · rw [hs']
        exact nofun
  shapes _ _ h := h
  shutdown _ h := h

/-- Nothing is read or written any more once a session is broken. -/
def Latched (s s' : Session) : Prop :=
  s.broken = true → s'.broken = true ∧ s'.channel.unread = s.channel.unread ∧
    s'.channel.sent = s.channel.sent

/-- No call on a broken session reads or writes, or mends it. -/
theorem stable_latched : Stable Latched where
  refl _ h := ⟨h, rfl, rfl⟩
  trans h h' hb := by
    obtain ⟨hb', unread, sent⟩ := h hb
    obtain ⟨hb'', unread', sent'⟩ := h' hb'
    exact ⟨hb'', unread'.trans unread, sent'.trans sent⟩
  request r s hb := by
    rw [request_of_broken hb]
    exact ⟨hb, rfl, rfl⟩
  shapes _ _ hb := ⟨hb, rfl, rfl⟩
  shutdown _ hb := ⟨hb, rfl, rfl⟩

/-- A session that was just opened is in sync and not broken. -/
theorem inSync_of_connect {hasher : PasswordHasher} {clientKey : Octets} {options : Options}
    {address : String} {zone : Int32} {channel opened : Channel}
    (h : connect hasher clientKey options address zone channel = (.done s, opened)) :
    InSync channel s ∧ s.broken = false := by
  obtain ⟨-, -, s₁, keys, s₂, s₃, hmark, hkeys, hauth, hlogin⟩ := connect_eq_done_iff.1 h
  obtain ⟨-, order, version, c, split, rfl⟩ := exchangeMark_eq_done_iff.1 hmark
  have sync : InSync channel { fresh options channel with channel := c, order := order } :=
    ⟨_, _, 0, .opened rfl, congrArg Channel.unread split, (congrArg Channel.sent split).symm, rfl⟩
  obtain ⟨_, _, k, keyed, -, -, -, -, rfl, rfl⟩ := (exchangeKeys_eq_done_iff (by rfl)).1 hkeys
  have sync : InSync channel k := keyed.inSync sync
  have whole : k.broken = false := keyed.broken_eq
  obtain ⟨_, _, a, proved, -, -, -, rfl⟩ := (authenticate_eq_done_iff (by exact whole)).1 hauth
  have sync : InSync channel a := proved.inSync sync
  have whole : a.broken = false := proved.broken_eq.trans whole
  obtain ⟨_, _, _, l, logged, -, -, -, rfl⟩ := (login_eq_done_iff (by exact whole)).1 hlogin
  exact ⟨logged.inSync sync, logged.broken_eq.trans whole⟩

/-- What a request comes to : it is answered, and the session goes on with an outcome that depends
on the response only, or it is interrupted, which breaks the session. -/
def Settles (s : Session) (r : Request) : Prop :=
  (∃ response s', Exchanges r response s s' ∧ s'.broken = false ∧
      (request r s).1.interrupted = false ∧
      request r s = (.ofExcept (response.payload? s.order s.charset), s') ∧
      ∀ (α : Type) (reader : Wire.Reader α), ask r reader s =
        (.ofExcept do (reader s.order (← response.payload? s.order s.charset)).1, s')) ∨
    (¬∃ response s', Exchanges r response s s') ∧
      (request r s).2.broken = true ∧ (request r s).1.interrupted = true ∧
      ∀ (α : Type) (reader : Wire.Reader α),
        (ask r reader s).1.interrupted = true ∧ (ask r reader s).2 = (request r s).2

/-- A request on a session that is not broken is answered, or it breaks the session. -/
theorem settles (hb : s.broken = false) (r : Request) : Settles s r := by
  rcases request_cases hb r with ⟨response, s', exchange, heq⟩ | ⟨stopped, c, hs'⟩
  · refine Or.inl ⟨response, s', exchange, exchange.broken_eq.trans hb, ?_, heq, ?_⟩
    · rw [heq]
      cases hp : response.payload? s.order s.charset with
      | ok payload => rfl
      | error e => exact isStreamFault_of_payload? hp
    · intro α reader
      exact ask_of_exchanges exchange hb reader
  · have breaks : (request r s).2.broken = true := by rw [hs']
    refine Or.inr ⟨?_, breaks, stopped, fun α reader => ⟨?_, ask_state r reader s⟩⟩
    · rintro ⟨response, s', exchange⟩
      rw [request_of_exchanges exchange hb] at breaks
      exact Bool.false_ne_true (hb.symm.trans (exchange.broken_eq.symm.trans breaks))
    · exact interrupted_ask stopped reader

/-- What holds of a session at any time after it was opened over `start`. -/
structure KeepsPlace (start : Channel) (s : Session) : Prop where
  /-- Unless it is broken, it is between two messages. -/
  inSync : s.broken = false → InSync start s
  /-- Unless it is broken, it has read the preamble and complete frames. -/
  frames : s.broken = false → ∃ preamble octets frames, preamble.length = Preamble.size ∧
    start.unread = preamble ++ octets ++ s.channel.unread ∧ Frame.Chain s.order octets frames
  /-- Unless it is broken, what a request comes to decides whether it is. -/
  settles : s.broken = false → ∀ r, Settles s r
  /-- Once it is broken, a request is refused without a trace. -/
  refuses : s.broken = true → ∀ r, request r s = (.failed .broken, s) ∧
    ∀ (α : Type) (reader : Wire.Reader α), ask r reader s = (.failed .broken, s)
  /-- Once it is broken, closing it only shuts the stream down. -/
  closes : s.broken = true → close s = onChannel Channel.shutdown s
  /-- Once it is broken, it stays so, and nothing is read or written any more. -/
  latched : ∀ calls, Latched s (s.run calls).2

/-- Whatever is called on a session that was opened over `channel`, the session is in its place or
knows that it is not. A script may end inside a statement or a result, so this is about the session
after any call. -/
theorem run_keepsPlace {hasher : PasswordHasher} {clientKey : Octets} {options : Options}
    {address : String} {zone : Int32} {channel opened : Channel}
    (connected : connect hasher clientKey options address zone channel = (.done s, opened))
    (calls : List SessionCall) : KeepsPlace channel (s.run calls).2 where
  inSync := (stable_synchronised channel).run calls s fun _ => (inSync_of_connect connected).1
  frames hb := ((stable_synchronised channel).run calls s
    (fun _ => (inSync_of_connect connected).1) hb).exists_chain
  settles hb := settles hb
  refuses hb r := ⟨request_of_broken hb r, fun _ reader => ask_of_broken hb r reader⟩
  closes hb := by simp [close, hb]
  latched later := stable_latched.run later _

/-- The server answers one round trip, behind a frame of an earlier one, and then sends a length
that no frame has. -/
theorem run_keepsPlace_guest :
    let channel : Channel := {
      unread := welcome [1, 2, 3] ++ Response.success 2 [] ++ Response.success 4 [] ++
        [0, 0, 0, 3, 9, 9] }
    ∃ s opened, connect trusting [1, 2, 3] guest "" 3600 channel = (.done s, opened) ∧
      ((s.run [.ping]).2.broken = false ∧ KeepsPlace channel (s.run [.ping]).2) ∧
      (s.run [.ping, .ping]).2.broken = true ∧ KeepsPlace channel (s.run [.ping, .ping]).2 := by
  intro channel
  obtain ⟨s, opened, connected, pinged⟩ := Outcome.exists_of_holds
    (x := connect trusting [1, 2, 3] guest "" 3600 channel)
    (p := fun s => !(s.run [.ping]).2.broken && (s.run [.ping, .ping]).2.broken)
    (by decide +kernel)
  rw [Bool.and_eq_true, Bool.not_eq_true'] at pinged
  exact ⟨s, opened, connected, ⟨pinged.1, run_keepsPlace connected [.ping]⟩, pinged.2,
    run_keepsPlace connected [.ping, .ping]⟩

end Session

end SqlWire
