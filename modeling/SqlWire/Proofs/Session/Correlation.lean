import SqlWire.Proofs.Session.Secrecy
import SqlWire.Proofs.Session.SideBySide
import SqlWire.Proofs.Session.Turns
import SqlWire.Proofs.Stream.Splitting

/-!
# Which octets belong to which request

What is written on a connection is the mark, and then what its turns write, one behind the other.
What is read is the preamble, and then what its turns hear. So every octet belongs to one turn at
most. The `k`-th turn of a connection writes frames with the number `k`, counted modulo `2 ^ 32`,
and reads only when they are written. The answer is made of the frames with this number among those
that the turn itself has heard (`Turn.Correlates`), so no frame has a part in two answers.

`Transcript.turns` are the turns of a connection, those of its handshake first. All of this holds of
any connection, opened or not, after any calls (`Transcript.turns_correlate`).
-/

namespace SqlWire

/-- The octets that are read between two states of a channel. -/
def readBetween (before after : Channel) : Octets :=
  before.unread.take (before.unread.length - after.unread.length)

/-- What was there to read is what was read and what is left. -/
theorem Channel.Advances.unread_eq {c c' : Channel} (h : Advances c c') :
    c.unread = readBetween c c' ++ c'.unread := by
  obtain ⟨octets, split⟩ := h
  simp [readBetween, ← split]

/-! ## One turn -/

namespace Turn

/-- The frames of the request. -/
def frames (t : Turn) : List Frame :=
  Frame.request t.request.command (t.before.seq + 1)
    (t.request.payload t.before.order t.before.charset) t.before.server.capacity.toNat

/-- The octets of these frames, one frame behind the other. -/
def octets (t : Turn) : Octets :=
  t.frames.flatMap (Frame.encode t.before.order)

/-- What is written in the turn. -/
def written (t : Turn) : Octets :=
  sentBetween t.before.channel t.after.channel

/-- What is read in the turn. -/
def heard (t : Turn) : Octets :=
  readBetween t.before.channel t.after.channel

/-- What becomes of the request. -/
def answer (t : Turn) : Outcome Octets :=
  (Session.request t.request t.before).1

/-- The course of a turn : the octets of the request are written, and then, if they are written
whole, a response to its number is read. -/
inductive Course (t : Turn) : Prop where
  | cut {outcome : Outcome Unit} {c : Channel}
      (wrote : Channel.write t.octets t.before.channel = (outcome, c))
      (stops : outcome.isDone = false) (unread : c.unread = t.before.channel.unread)
      (ends : t.after.channel = c) (unanswered : t.answer.isDone = false)
  | whole {c : Channel} (wrote : Channel.write t.octets t.before.channel = (.done (), c))
      (unread : c.unread = t.before.channel.unread)
      (sent : c.sent = t.before.channel.sent ++ t.octets)
      (received : t.after.channel =
        (Channel.receive t.before.order { seq := t.before.seq + 1 } c).2)
      (silent : t.after.channel.sent = c.sent)

/-- What holds of the `k`-th turn of a connection. -/
structure Correlates (t : Turn) (k : Nat) : Prop where
  /-- The request has frames, which all carry its command and the number `k`. -/
  frames : t.frames ≠ [] ∧ ∀ frame ∈ t.frames,
    frame.header.command = t.request.command.code ∧ frame.header.seq = UInt32.ofNat k
  /-- Nothing but these frames is written, in their order. -/
  written : t.written <+: t.octets
  /-- Nothing is read before they are written whole, and nothing is written behind that. -/
  course : t.Course
  /-- If the turn is not cut short, it has written all and heard complete frames, and what becomes
  of the request depends on those of them with the number `k`. -/
  answered : t.answer.interrupted = false → t.written = t.octets ∧
    ∃ frames, Frame.Chain t.before.order t.heard frames ∧
      t.answer = .ofExcept ((Response.ofFrames (Response.own (UInt32.ofNat k) frames)).payload?
        t.before.order t.before.charset)
  /-- What is handed back are the payloads of the frames with the number `k`, joined. -/
  payload : ∀ octets, t.answer = .done octets → t.written = t.octets ∧
    ∃ frames, Frame.Chain t.before.order t.heard frames ∧
      octets = (Response.own (UInt32.ofNat k) frames).flatMap Frame.payload

variable {t : Turn}

/-- What is remembered has no part in what happens on the channel. -/
theorem channel_after (t : Turn) :
    t.after.channel = (Session.request t.request t.before).2.channel :=
  rfl

/-- A turn counts by one. -/
theorem seq_after (whole : t.before.broken = false) : t.after.seq = t.before.seq + 1 := by
  rw [after, Session.request_eq whole]
  split <;> rfl

/-- A turn writes the head of its request. -/
theorem sends_after (t : Turn) : Channel.Sends t.octets t.before.channel t.after.channel :=
  Session.sends_request t.request t.before

/-- What has been sent behind a turn ends with what was written in it. -/
theorem sent_after (t : Turn) : t.after.channel.sent = t.before.channel.sent ++ t.written :=
  t.sends_after.grows.sent_eq

/-- What there was to read before a turn begins with what was heard in it. -/
theorem unread_after (t : Turn) : t.before.channel.unread = t.heard ++ t.after.channel.unread :=
  Channel.Advances.unread_eq (Session.stable_advances.request t.request t.before)

/-- A turn that is cut short has written the head of its request. -/
theorem written_prefix (t : Turn) : t.written <+: t.octets := by
  obtain ⟨⟨written, le, sent⟩, -⟩ := t.sends_after
  rwa [List.append_cancel_left (t.sent_after.symm.trans sent)]

/-- What is not written whole is not answered, and nothing is read. -/
theorem stops_of_write {outcome : Outcome Unit} {c : Channel} (whole : t.before.broken = false)
    (wrote : Channel.write t.octets t.before.channel = (outcome, c))
    (stops : outcome.isDone = false) : t.after.channel = c ∧ t.answer.isDone = false := by
  have octets : t.before.octetsOf t.request = t.octets := rfl
  rw [channel_after, answer, Session.request_eq whole, octets, Channel.exchange]
  simp only [Bind.bind, Action.bind, wrote]
  cases outcome with
  | done u => cases stops
  | failed e => exact ⟨rfl, rfl⟩
  | suspended => exact ⟨rfl, rfl⟩

/-- Behind what is written whole the response is read. -/
theorem receives_of_write {c : Channel} (whole : t.before.broken = false)
    (wrote : Channel.write t.octets t.before.channel = (.done (), c)) : t.after.channel =
      (Channel.receive t.before.order { seq := t.before.seq + 1 } c).2 := by
  have octets : t.before.octetsOf t.request = t.octets := rfl
  rw [channel_after, Session.channel_request whole, octets]
  exact congrArg Prod.snd (Action.bind_of_done wrote)

/-- A turn that begins on a session that is not broken takes one of the courses that there are. -/
theorem course (whole : t.before.broken = false) : t.Course := by
  have same := Channel.unread_write t.octets t.before.channel
  rcases wrote : Channel.write t.octets t.before.channel with ⟨u | e | _, c⟩ <;> rw [wrote] at same
  · obtain ⟨-, rfl⟩ := Channel.write_eq_done_iff.1 wrote
    have received := receives_of_write whole wrote
    refine .whole wrote same rfl received ?_
    rw [received]
    exact (Channel.consumes_receive _ _ _).quiet.1
  · obtain ⟨ends, unanswered⟩ := stops_of_write whole wrote rfl
    exact .cut wrote rfl same ends unanswered
  · obtain ⟨ends, unanswered⟩ := stops_of_write whole wrote rfl
    exact .cut wrote rfl same ends unanswered

/-- A turn that is not cut short is an exchange. -/
theorem answered (whole : t.before.broken = false) (h : t.answer.interrupted = false) :
    t.written = t.octets ∧ ∃ frames, Frame.Chain t.before.order t.heard frames ∧
      t.answer = .ofExcept ((Response.ofFrames (Response.own (t.before.seq + 1) frames)).payload?
        t.before.order t.before.charset) := by
  rcases Session.request_cases whole t.request with ⟨response, s', exchange, heq⟩ | ⟨stopped, -⟩
  -- An exchange names the octets that it writes and reads, and a turn writes and reads no others.
  · obtain ⟨-, octets, frames, c, chain, ⟨_, _, -, -, -, -, -, rfl⟩, split, rfl⟩ := exchange
    have ends : t.after.channel = c := by rw [channel_after, heq]
    have heard : t.heard = octets := by
      have unread : t.before.channel.unread = octets ++ c.unread := congrArg Channel.unread split
      have parts := t.unread_after
      rw [ends, unread] at parts
      exact (List.append_cancel_right parts).symm
    have written : t.written = t.octets := by
      have sent : t.before.channel.sent ++ t.octets = c.sent := congrArg Channel.sent split
      have parts := t.sent_after
      rw [ends, ← sent] at parts
      exact (List.append_cancel_left parts).symm
    exact ⟨written, frames, heard ▸ chain, congrArg Prod.fst heq⟩
  · rw [show (Session.request t.request t.before).1.interrupted = _ from h] at stopped
    cases stopped

/-- Under the number of its place a turn writes, hears and is answered with that number. -/
theorem correlates (whole : t.before.broken = false) {k : Nat}
    (number : t.before.seq + 1 = UInt32.ofNat k) : t.Correlates k where
  frames := by
    refine ⟨fun none => ?_, fun frame h => number ▸ Frame.header_of_mem_request h⟩
    obtain ⟨before, last, -, some⟩ := Frame.exists_request_eq t.request.command (t.before.seq + 1)
      (t.request.payload t.before.order t.before.charset) t.before.server.capacity.toNat
    rw [frames, some] at none
    simp at none
  written := t.written_prefix
  course := course whole
  answered := number ▸ answered whole
  payload octets h := by
    obtain ⟨all, frames, chain, same⟩ := answered whole (by rw [h]; rfl)
    refine ⟨all, frames, chain, ?_⟩
    rw [h, eq_comm, Action.ofExcept_eq_done_iff, Response.payload?_eq_ok_iff] at same
    rw [← number]
    exact same.2.symm

end Turn

/-! ## All turns -/

namespace Session

variable {s s' : Session} {turns : List Turn}

/-- The number of the last request has gone up by the number of turns. -/
theorem Dialogue.seq (h : Dialogue s turns s') : s'.seq = s.seq + UInt32.ofNat turns.length := by
  induction h with
  | done aside => simp [aside.seq]
  | @turn s s' t turns aside whole _ _ ih =>
    rw [ih, t.seq_after whole, aside.seq, List.length_cons, UInt32.ofNat_add, UInt32.add_assoc,
      UInt32.add_comm 1]
    rfl

/-- All that is written is written in turns. -/
theorem Dialogue.sent (h : Dialogue s turns s') :
    s'.channel.sent = s.channel.sent ++ turns.flatMap Turn.written := by
  induction h with
  | done aside => simp [aside.sent]
  | @turn s s' t turns aside _ _ _ ih =>
    rw [ih, t.sent_after, aside.sent, List.flatMap_cons, List.append_assoc]

/-- All that is read is heard in turns. -/
theorem Dialogue.unread (h : Dialogue s turns s') :
    s.channel.unread = turns.flatMap Turn.heard ++ s'.channel.unread := by
  induction h with
  | done aside => simp [aside.unread]
  | @turn s s' t turns aside _ _ _ ih =>
    rw [← aside.unread, t.unread_after, ih, List.flatMap_cons, List.append_assoc]

end Session

/-- What holds of a connection over `start` that has come to `last` with these turns, when `opening`
was written and `preamble` read before them. -/
structure Correlated (clientKey : Octets) (start last : Channel) (opening preamble : Octets)
    (turns : List Turn) : Prop where
  opening_prefix : opening <+: Preamble.mark
  /-- There are turns only behind the whole mark and the whole preamble, and the first one is that
  of the client key. -/
  opened : turns ≠ [] → opening = Preamble.mark ∧ preamble.length = Preamble.size
  first : ∀ t ∈ turns.head?, t.request = .handshake clientKey
  /-- All that is written is written in the turns, one behind the other. -/
  sent : last.sent = start.sent ++ opening ++ turns.flatMap Turn.written
  /-- All that is read is heard in the turns, one behind the other. -/
  read : start.unread = preamble ++ turns.flatMap Turn.heard ++ last.unread
  /-- A turn begins when the turns before it are over, on a session that is not broken, and its
  number is its place. -/
  turn : ∀ earlier t later, turns = earlier ++ t :: later →
    t.before.channel.sent = start.sent ++ opening ++ earlier.flatMap Turn.written ∧
    start.unread = preamble ++ earlier.flatMap Turn.heard ++ t.before.channel.unread ∧
    t.before.broken = false ∧ t.Correlates (earlier.length + 1)

/-- Nothing but the mark and what was read of the preamble comes before the first turn. -/
theorem Correlated.nil {clientKey : Octets} {start last : Channel} {opening preamble : Octets}
    (le : opening <+: Preamble.mark) (sent : last.sent = start.sent ++ opening)
    (unread : start.unread = preamble ++ last.unread) :
    Correlated clientKey start last opening preamble [] where
  opening_prefix := le
  opened some := absurd rfl some
  first _ := nofun
  sent := by simp [sent]
  read := by simp [unread]
  turn earlier t later split := by simp at split

/-- A dialogue from the first number on is correlated. -/
theorem Session.Dialogue.correlated {clientKey : Octets} {start : Channel} {s last : Session}
    {opening preamble : Octets} {turns : List Turn} (talk : Dialogue s turns last)
    (le : opening <+: Preamble.mark)
    (opened : turns ≠ [] → opening = Preamble.mark ∧ preamble.length = Preamble.size ∧ s.seq = 0)
    (first : ∀ t ∈ turns.head?, t.request = .handshake clientKey)
    (sent : s.channel.sent = start.sent ++ opening)
    (unread : start.unread = preamble ++ s.channel.unread) :
    Correlated clientKey start last.channel opening preamble turns where
  opening_prefix := le
  opened some := ⟨(opened some).1, (opened some).2.1⟩
  first := first
  sent := by rw [talk.sent, sent]
  read := by rw [unread, talk.unread, List.append_assoc]
  turn earlier t later split := by
    have none : s.seq = 0 := (opened (by simp [split])).2.2
    rw [split] at talk
    obtain ⟨before, whole, -⟩ := talk.before
    refine ⟨by rw [before.sent, sent], by rw [unread, before.unread, List.append_assoc], whole,
      t.correlates whole ?_⟩
    rw [before.seq, none, UInt32.zero_add, UInt32.ofNat_add]
    rfl

/-! ## Handshakes -/

namespace Session

variable {s : Session}

/-- The turn of a request that is asked on entering a phase. -/
def asking (phase : Phase) (r : Request) (s : Session) : List Turn :=
  let s := { s with phase := phase }
  s.begun (s.begins r)

/-- The turns of a handshake behind the mark. -/
def credentialTurns (hasher : PasswordHasher) (clientKey : Octets) (options : Options)
    (address : String) (zone : Int32) (s : Session) : List Turn :=
  s.asking .keySent (.handshake clientKey) ++
    behind (exchangeKeys clientKey s) fun keys s =>
      s.asking .userSent (.authInit options.user clientKey options.tenant) ++
        behind (authenticate hasher options clientKey keys s) fun _ s =>
          s.asking .loginSent (.login options.user
            (hasher.deriveHash (Utf8.encode options.password) keys.scramble keys.iterations)
            address zone options.tenant (Request.binaryRows ||| Request.multiFrame))

/-- The turns of a handshake. The mark is no request. -/
def handshakeTurns (hasher : PasswordHasher) (clientKey : Octets) (options : Options)
    (address : String) (zone : Int32) (s : Session) : List Turn :=
  behind (exchangeMark s) fun _ s => s.credentialTurns hasher clientKey options address zone

/-- A request that is asked on entering a phase is one turn, whatever is done with the answer aside.
-/
theorem dialogue_asking {α β : Type} {r : Request} (plain : r.query? = none) (phase : Phase)
    {reader : Wire.Reader α} {f : α → Action Session β} (hf : ∀ a, Action.Respects Aside (f a))
    (s : Session) : Dialogue s (s.asking phase r)
      ((ask r reader >>= f) { s with phase := phase }).2 := by
  have entered : Aside s { s with phase := phase } := ⟨rfl, rfl, rfl, rfl, rfl⟩
  exact .of_aside entered ((dialogue_ask plain reader _).bind_aside hf)

/-- Offering the client key is one turn. -/
theorem dialogue_exchangeKeys (clientKey : Octets) (s : Session) :
    Dialogue s (s.asking .keySent (.handshake clientKey)) (exchangeKeys clientKey s).2 := by
  refine dialogue_asking rfl .keySent (fun reply => (Action.Respects.ofExcept _).seq fun _ => ?_) s
  dsimp only
  split
  · exact .fail _
  · exact Action.Respects.seq (.modify fun _ => ⟨rfl, rfl, rfl, rfl, rfl⟩) fun _ =>
      Action.Respects.seq (.modify fun _ => ⟨rfl, rfl, rfl, rfl, rfl⟩) fun _ => .pure _

/-- Naming the user is one turn. -/
theorem dialogue_authenticate (hasher : PasswordHasher) (options : Options) (clientKey : Octets)
    (keys : SessionKeys) (s : Session) :
    Dialogue s (s.asking .userSent (.authInit options.user clientKey options.tenant))
      (authenticate hasher options clientKey keys s).2 := by
  refine dialogue_asking rfl .userSent (fun challenge => ?_) s
  dsimp only
  split
  · exact .fail _
  · exact .modify fun _ => ⟨rfl, rfl, rfl, rfl, rfl⟩

/-- The login is one turn. -/
theorem dialogue_login (hasher : PasswordHasher) (options : Options) (address : String)
    (zone : Int32) (keys : SessionKeys) (s : Session) :
    Dialogue s (s.asking .loginSent (.login options.user
        (hasher.deriveHash (Utf8.encode options.password) keys.scramble keys.iterations)
        address zone options.tenant (Request.binaryRows ||| Request.multiFrame)))
      (login hasher options address zone keys s).2 := by
  refine dialogue_asking rfl .loginSent
    (fun reply => (Action.Respects.ofExcept _).seq fun _ => ?_) s
  exact Action.Respects.seq (.modify fun _ => ⟨rfl, rfl, rfl, rfl, rfl⟩) fun _ =>
    .modify fun _ => ⟨rfl, rfl, rfl, rfl, rfl⟩

/-- Behind the mark a handshake is its turns. -/
theorem dialogue_handshake (hasher : PasswordHasher) (clientKey : Octets) (options : Options)
    (address : String) (zone : Int32) {s₁ : Session} {u : Unit} (idle : s.phase = .idle)
    (marked : exchangeMark s = (.done u, s₁)) :
    Dialogue s₁ (s.handshakeTurns hasher clientKey options address zone)
      (handshake hasher clientKey options address zone s).2 := by
  rw [handshakeTurns, marked, handshake_of_idle idle, Action.bind_of_done marked]
  exact (dialogue_exchangeKeys clientKey s₁).bind fun keys s₂ _ =>
    (dialogue_authenticate hasher options clientKey keys s₂).bind fun _ s₃ _ =>
      dialogue_login hasher options address zone keys s₃

/-- Whatever becomes of the mark, nothing is put back behind what is read. -/
theorem advances_exchangeMark : Action.Respects Advances exchangeMark := by
  have := stable_advances.isRefl
  have := stable_advances.isTrans
  have aside {f : Session → Session} (h : ∀ s, (f s).channel = s.channel) :
      Action.Respects Advances (.modify f) := by
    intro s
    rw [Advances, Action.modify_apply, h]
    exact refl_of Channel.Advances s.channel
  refine Action.Respects.seq ((Channel.advances_write Preamble.mark).within fun _ _ h => h)
    fun _ => (aside fun _ => by rfl).seq fun _ =>
      Action.Respects.seq ((Channel.consumes_read _).within fun _ _ h => h.advances)
        fun _ => (Action.Respects.ofExcept _).seq fun preamble => ?_
  dsimp only
  split
  · exact .fail _
  · exact (aside fun _ => by rfl).seq fun _ => aside fun _ => by rfl

end Session

/-! ## Connections -/

namespace Transcript

open Session

/-- The turns of a connection : those of the handshake, and behind a session those of the calls. -/
def turns (hasher : PasswordHasher) (clientKey : Octets) (options : Options) (zone : Int32)
    (channel : Channel) (calls : List SessionCall) : List Turn :=
  match options.validate with
  | .error _ => []
  | .ok () =>
    (fresh options channel).handshakeTurns hasher clientKey options
        (options.clientAddress.getD unknownAddress) zone ++
      behind (connect hasher clientKey options unknownAddress zone channel) fun s _ => s.turns calls

section

variable (hasher : PasswordHasher) (clientKey : Octets) {options : Options} (zone : Int32)
  {channel : Channel} (calls : List SessionCall)

/-- Behind the mark a connection is its turns. -/
theorem exists_dialogue {s₁ : Session} {u : Unit} (valid : options.validate = .ok ())
    (marked : exchangeMark (fresh options channel) = (.done u, s₁)) : ∃ last,
      Dialogue s₁ (turns hasher clientKey options zone channel calls) last ∧
      (Transcript.of hasher clientKey options zone channel calls).channel = last.channel ∧
      ∀ s opened, connect hasher clientKey options unknownAddress zone channel = (.done s, opened) →
        last = (s.run calls).2 := by
  have shaken := dialogue_handshake hasher clientKey options
    (options.clientAddress.getD unknownAddress) zone (s := fresh options channel) rfl marked
  simp only [turns, valid, Transcript.of, connect_of_valid valid]
  generalize handshake hasher clientKey options (options.clientAddress.getD unknownAddress) zone
    (fresh options channel) = x at shaken ⊢
  obtain ⟨u | e | _, s⟩ := x <;> dsimp only
  · refine ⟨(s.run calls).2, shaken.append (dialogue_run calls s), rfl, ?_⟩
    rintro _ _ ⟨⟩
    rfl
  · refine ⟨(onChannel Channel.shutdown s).2, ?_⟩
    have closed := shaken.append (.done (aside_shutdown s))
    simp only [giveUp_eq]
    split_ifs <;> exact ⟨closed, rfl, fun _ _ h => nomatch congrArg Prod.fst h⟩
  · refine ⟨s, shaken.append (.refl s), rfl, ?_⟩
    intro s' opened h
    cases congrArg Prod.fst h

/-- Where the mark comes to nothing there are no turns, and the connection ends with it. -/
theorem turns_of_unmarked (valid : options.validate = .ok ())
    (stops : (exchangeMark (fresh options channel)).1.isDone = false) :
    turns hasher clientKey options zone channel calls = [] ∧
      (Transcript.of hasher clientKey options zone channel calls).channel.sent =
        (exchangeMark (fresh options channel)).2.channel.sent ∧
      (Transcript.of hasher clientKey options zone channel calls).channel.unread =
        (exchangeMark (fresh options channel)).2.channel.unread := by
  simp only [turns, valid, Transcript.of, connect_of_valid valid,
    handshake_of_idle (s := fresh options channel) rfl, handshakeTurns, Bind.bind, Action.bind]
  generalize exchangeMark (fresh options channel) = x at stops ⊢
  obtain ⟨u | e | _, s⟩ := x
  · cases stops
  · simp only [giveUp_eq]
    split_ifs <;> exact ⟨rfl, rfl, rfl⟩
  · exact ⟨rfl, rfl, rfl⟩

/-- Behind the mark the turn of the client key is the first one. -/
theorem head?_turns {s₁ : Session} {u : Unit} (valid : options.validate = .ok ())
    (marked : exchangeMark (fresh options channel) = (.done u, s₁)) (whole : s₁.broken = false) :
    ∀ t ∈ (turns hasher clientKey options zone channel calls).head?,
      t.request = .handshake clientKey := by
  have key : s₁.asking .keySent (.handshake clientKey) =
      [⟨{ s₁ with phase := .keySent }, .handshake clientKey⟩] := begun_of_whole (by exact whole) _
  simp only [turns, valid, handshakeTurns, marked, behind, credentialTurns, key, List.cons_append,
    List.head?_cons, Option.mem_some_iff]
  rintro t rfl
  rfl

/-- The last number of a session is the number of turns. -/
theorem seq_run_of_connect {s : Session} {opened : Channel}
    (connected : connect hasher clientKey options unknownAddress zone channel = (.done s, opened)) :
    (s.run calls).2.seq =
      UInt32.ofNat (turns hasher clientKey options zone channel calls).length := by
  obtain ⟨valid, -, s₁, _, _, _, marked, -⟩ := connect_eq_done_iff.1 connected
  obtain ⟨last, talk, -, counted⟩ := exists_dialogue hasher clientKey zone calls valid marked
  obtain ⟨-, order, version, rest, -, rfl⟩ := exchangeMark_fresh_eq_done_iff.1 marked
  rw [← counted s opened connected, talk.seq]
  exact UInt32.zero_add _

/-- Every connection is correlated, also one that is refused or comes to nothing. -/
theorem exists_correlated : ∃ opening preamble, Correlated clientKey channel
    (Transcript.of hasher clientKey options zone channel calls).channel opening preamble
    (turns hasher clientKey options zone channel calls) := by
  rcases valid : options.validate with e | _
  · have none : turns hasher clientKey options zone channel calls = [] := by
      simp only [turns, valid]
    have left : (Transcript.of hasher clientKey options zone channel calls).channel = channel := by
      simp only [Transcript.of, connect_of_invalid valid]
    refine ⟨[], [], ?_⟩
    rw [none, left]
    exact .nil List.nil_prefix (List.append_nil _).symm rfl
  -- Without an agreed byte order nothing is asked, and no dialogue begins.
  cases done : (exchangeMark (fresh options channel)).1.isDone with
  | false =>
    obtain ⟨none, sent, unread⟩ := turns_of_unmarked hasher clientKey zone calls valid done
    obtain ⟨⟨opening, le, wrote⟩, -⟩ := sends_exchangeMark (fresh options channel)
    have read := (advances_exchangeMark (fresh options channel)).unread_eq
    refine ⟨opening, readBetween channel (exchangeMark (fresh options channel)).2.channel, ?_⟩
    rw [none]
    exact .nil le (sent.trans wrote) (by rw [unread]; exact read)
  | true =>
    obtain ⟨u, s₁, marked, -⟩ := Outcome.exists_of_holds (p := fun _ => true) done
    obtain ⟨-, order, version, rest, read, rfl⟩ := exchangeMark_fresh_eq_done_iff.1 marked
    obtain ⟨last, talk, ends, -⟩ := exists_dialogue hasher clientKey zone calls valid marked
    refine ⟨Preamble.mark, Preamble.accepting order version, ?_⟩
    rw [ends]
    exact talk.correlated (List.prefix_refl _) (fun _ => ⟨rfl, rfl, rfl⟩)
      (head?_turns hasher clientKey zone calls valid marked rfl) rfl read

end

/-- Whatever the server sends and whatever is called, each request of a connection is written under
its own number before its response is read, and its answer is made of frames with this number that
no other request has heard. No request is left out : the last number is the number of turns. -/
theorem turns_correlate (hasher : PasswordHasher) (clientKey : Octets) (options : Options)
    (zone : Int32) (channel : Channel) (calls : List SessionCall) :
    (∃ opening preamble, Correlated clientKey channel
      (Transcript.of hasher clientKey options zone channel calls).channel opening preamble
      (turns hasher clientKey options zone channel calls)) ∧
    ∀ s opened, connect hasher clientKey options unknownAddress zone channel = (.done s, opened) →
      (s.run calls).2.seq =
        UInt32.ofNat (turns hasher clientKey options zone channel calls).length :=
  ⟨exists_correlated hasher clientKey zone calls,
    fun _ _ connected => seq_run_of_connect hasher clientKey zone calls connected⟩

/-- Behind a frame with an old number the first round trip is answered. The second one is not, and
the commit is refused. -/
theorem turns_correlate_guest :
    let channel : Channel := {
      unread := welcome [1, 2, 3] ++ Response.success 2 [.u32 9] ++ Response.success 4 [] }
    let ts := turns trusting [1, 2, 3] guest 3600 channel [.ping, .ping, .commit]
    ts.map (fun t => (t.request.command, t.heard.length, t.answer.isDone)) =
        [(.handshake, 36, true), (.authInit, 24, true), (.login, 28, true), (.ping, 36, true),
          (.ping, 0, false)] ∧
      ∃ opening preamble, Correlated [1, 2, 3] channel
        (Transcript.of trusting [1, 2, 3] guest 3600 channel [.ping, .ping, .commit]).channel
        opening preamble ts := by
  intro channel ts
  exact ⟨by decide +kernel, (turns_correlate trusting [1, 2, 3] guest 3600 channel _).1⟩

end Transcript

end SqlWire
