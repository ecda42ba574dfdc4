import SqlWire.Proofs.Session.Gates
import SqlWire.Session.Script

/-!
# What a server can learn of a password

A client has its password from the start and uses it twice : to judge the server's proof, and for
the login behind that. A handshake is therefore `hearing`, which knows user and tenant only, then
`judge`, then the login (`handshake_eq_hearing`).

`beforeLogin` and `beforeKeys` are what a connection attempt writes before the login is begun, and
before the server's answer to the client key is accepted. `connect_withholds` compares attempts over
the same channel : the former is the same under all passwords, the latter for all users and tenants
as well, and under passwords by which the server's proof is rejected all that is left of an attempt
is the same.
-/

namespace SqlWire

/-! ## What goes on being written -/

/-- What was written stays written. -/
def Channel.Grows (c c' : Channel) : Prop :=
  c.sent <+: c'.sent

/-- What is sent is added to what was sent before. -/
theorem Channel.Sends.grows {octets : Octets} {c c' : Channel} (h : Sends octets c c') :
    Grows c c' := by
  obtain ⟨⟨written, -, sent⟩, -⟩ := h
  exact ⟨written, sent.symm⟩

/-- What has been sent is what was sent before and what was sent since. -/
theorem Channel.Grows.sent_eq {c c' : Channel} (h : Grows c c') :
    c'.sent = c.sent ++ sentBetween c c' := by
  obtain ⟨written, sent⟩ := h
  rw [sentBetween, ← sent, List.drop_left]

namespace Session

/-- What was written in a session stays written. -/
def Grows (s s' : Session) : Prop :=
  Channel.Grows s.channel s'.channel

instance : Std.Refl Grows :=
  ⟨fun _ => List.prefix_refl _⟩

instance : IsTrans Session Grows :=
  ⟨fun _ _ _ => List.IsPrefix.trans⟩

/-- Of two actions in a row the first one writes what it writes alone. What comes behind is written
by the second, which may not run. -/
theorem sent_bind {α β : Type} {x : Action Session α} {f : α → Action Session β}
    (hx : Action.Respects Grows x) (hf : ∀ a, Action.Respects Grows (f a)) (s : Session) :
    ∃ later, ((x >>= f) s).2.channel.sent =
        s.channel.sent ++ sentBetween s.channel (x s).2.channel ++ later ∧
      (later = [] ∨ ∃ a s', x s = (.done a, s') ∧
        (f a s').2.channel.sent = s'.channel.sent ++ later) := by
  rw [← Channel.Grows.sent_eq (hx s)]
  rcases Action.bind_cases x f s with ⟨a, s', hs, hb⟩ | ⟨-, hb, -⟩ <;> rw [hb]
  · obtain ⟨later, sent⟩ := hf a s'
    rw [hs]
    exact ⟨later, sent.symm, Or.inr ⟨a, s', rfl, sent.symm⟩⟩
  · exact ⟨[], (List.append_nil _).symm, Or.inl rfl⟩

/-! ## A handshake in parts -/

/-- The exchanges before the user is named. -/
def opening (clientKey : Octets) : Action Session SessionKeys := do
  exchangeMark
  exchangeKeys clientKey

/-- The exchanges before the login. -/
def approach (hasher : PasswordHasher) (clientKey : Octets) (options : Options) :
    Action Session SessionKeys := do
  let keys ← opening clientKey
  authenticate hasher options clientKey keys
  return keys

/-- Name the user and hear what the server presents as its proof. -/
def hearing (clientKey : Octets) (user : String) (tenant : Option String) :
    Action Session (SessionKeys × Challenge) := do
  let keys ← opening clientKey
  enter .userSent
  let challenge ← ask (.authInit user clientKey tenant) Challenge.read
  return (keys, challenge)

/-- Judge the server's proof by the password. -/
def judge (hasher : PasswordHasher) (password : String) (heard : SessionKeys × Challenge) :
    Action Session Unit := do
  if !hasher.verify (Utf8.encode password) heard.1.scramble heard.1.iterations
      heard.2.signingKey then
    Action.fail .signingKeyRejected
  enter .serverVerified

/-- The server's proof, if it comes to one, is not the one of the password. -/
def Rejects (hasher : PasswordHasher) (clientKey : Octets) (options : Options)
    (channel : Channel) : Prop :=
  ∀ keys challenge s, hearing clientKey options.user options.tenant (fresh options channel) =
      (.done (keys, challenge), s) →
    hasher.verify (Utf8.encode options.password) keys.scramble keys.iterations
      challenge.signingKey = false

variable {hasher : PasswordHasher} {clientKey : Octets} {options : Options}
  {address : String} {zone : Int32} {channel : Channel} {s : Session}

/-- The password is only used to judge what was heard. -/
theorem approach_eq_hearing : approach hasher clientKey options =
    hearing clientKey options.user options.tenant >>= fun heard =>
      judge hasher options.password heard >>= fun _ => pure heard.1 := by
  simp only [approach, hearing, authenticate, judge, bind_assoc, pure_bind]

/-- The login comes last. -/
theorem handshake_eq_approach (h : s.phase = .idle) :
    handshake hasher clientKey options address zone s =
      (approach hasher clientKey options >>= login hasher options address zone) s := by
  rw [handshake_of_idle h]
  simp only [approach, opening, bind_assoc, pure_bind]

/-- Mark and client key come first. -/
theorem handshake_eq_opening (h : s.phase = .idle) :
    handshake hasher clientKey options address zone s =
      (opening clientKey >>= fun keys => authenticate hasher options clientKey keys >>= fun _ =>
        login hasher options address zone keys) s := by
  rw [handshake_of_idle h]
  simp only [opening, bind_assoc]

/-- A handshake is hearing, judging and the login. -/
theorem handshake_eq_hearing (h : s.phase = .idle) :
    handshake hasher clientKey options address zone s =
      (hearing clientKey options.user options.tenant >>= fun heard =>
        judge hasher options.password heard >>= fun _ =>
          login hasher options address zone heard.1) s := by
  rw [handshake_eq_approach h, approach_eq_hearing]
  simp only [bind_assoc, pure_bind]

/-- Judging writes nothing, so the password has no part in what is written before the login. -/
theorem channel_approach (s : Session) : (approach hasher clientKey options s).2.channel =
    (hearing clientKey options.user options.tenant s).2.channel := by
  rw [approach_eq_hearing]
  refine Action.bind_state (fun heard s => ?_) s
  refine (Action.bind_state (m := channel) (fun _ _ => rfl) s).trans ?_
  unfold judge
  split <;> rfl

/-- Where the server's proof is rejected the password has no part in the handshake. -/
theorem handshake_of_rejects (rejects : Rejects hasher clientKey options channel) :
    handshake hasher clientKey options address zone (fresh options channel) =
      (hearing clientKey options.user options.tenant >>= fun _ =>
        Action.fail .signingKeyRejected) (fresh options channel) := by
  rw [handshake_eq_hearing rfl]
  simp only [Bind.bind, Action.bind]
  rcases heard : hearing clientKey options.user options.tenant (fresh options channel) with
    ⟨⟨keys, challenge⟩ | _ | _, s⟩
  · have rejected := rejects keys challenge s heard
    simp only [judge, rejected]
    rfl
  · rfl
  · rfl

/-! ## What each part writes -/

theorem grows_exchangeMark : Action.Respects Grows exchangeMark :=
  fun s => (sends_exchangeMark s).grows

theorem grows_exchangeKeys (clientKey : Octets) : Action.Respects Grows (exchangeKeys clientKey) :=
  fun s => (sends_exchangeKeys clientKey s).grows

theorem grows_authenticate (hasher : PasswordHasher) (options : Options) (clientKey : Octets)
    (keys : SessionKeys) :
    Action.Respects Grows (authenticate hasher options clientKey keys) :=
  fun s => (sends_authenticate hasher options clientKey keys s).grows

theorem grows_login (hasher : PasswordHasher) (options : Options) (address : String) (zone : Int32)
    (keys : SessionKeys) : Action.Respects Grows (login hasher options address zone keys) :=
  fun s => (sends_login hasher options address zone keys s).grows

theorem grows_opening (clientKey : Octets) : Action.Respects Grows (opening clientKey) :=
  grows_exchangeMark.seq fun _ => grows_exchangeKeys clientKey

theorem grows_approach (hasher : PasswordHasher) (clientKey : Octets) (options : Options) :
    Action.Respects Grows (approach hasher clientKey options) :=
  (grows_opening clientKey).seq fun keys =>
    (grows_authenticate hasher options clientKey keys).seq fun _ => .pure _

/-- Before the server's answer is accepted nothing but the mark and the client key is written. -/
theorem sends_opening (clientKey : Octets) (options : Options) (channel : Channel) :
    ∃ order, Channel.Sends (Preamble.mark ++ keyOctets clientKey order) channel
      (opening clientKey (fresh options channel)).2.channel := by
  have marked := sends_exchangeMark (fresh options channel)
  rcases Action.bind_cases exchangeMark (fun _ => exchangeKeys clientKey) (fresh options channel)
    with ⟨_, s, hmark, hb⟩ | ⟨-, hb, -⟩ <;> rw [opening, hb]
  · obtain ⟨-, order, version, rest, -, rfl⟩ := exchangeMark_fresh_eq_done_iff.1 hmark
    exact ⟨order, (sends_exchangeKeys clientKey
      (agreed options channel order version rest)).of_after⟩
  · obtain ⟨⟨written, le, sent⟩, shut⟩ := marked
    exact ⟨.big, ⟨written, le.trans (List.prefix_append _ _), sent⟩, shut⟩

/-! ## Connecting -/

/-- What a connection attempt writes before the server's answer to the client key is accepted. -/
def beforeKeys (clientKey : Octets) (options : Options) (channel : Channel) : Octets :=
  match options.validate with
  | .error _ => []
  | .ok () => sentBetween channel (opening clientKey (fresh options channel)).2.channel

/-- What a connection attempt writes before the login is begun. -/
def beforeLogin (hasher : PasswordHasher) (clientKey : Octets) (options : Options)
    (channel : Channel) : Octets :=
  match options.validate with
  | .error _ => []
  | .ok () =>
    sentBetween channel (approach hasher clientKey options (fresh options channel)).2.channel

/-- What a connection attempt gives away, and when. -/
structure Withholds (hasher : PasswordHasher) (clientKey : Octets) (options : Options)
    (address : String) (zone : Int32) (channel : Channel) : Prop where
  /-- Options that are refused are refused before anything is written. -/
  refused : ∀ e, options.validate = .error e →
    connect hasher clientKey options address zone channel = (.failed e, channel)
  /-- Behind the mark and the client key something is written only if the answer is accepted. -/
  keys : ∃ later, (connect hasher clientKey options address zone channel).2.sent =
      channel.sent ++ beforeKeys clientKey options channel ++ later ∧
    (later = [] ∨ ∃ keys s, opening clientKey (fresh options channel) = (.done keys, s))
  markAndKey : ∃ order,
    beforeKeys clientKey options channel <+: Preamble.mark ++ keyOctets clientKey order
  /-- What is written last is the login, and only if the server's proof is accepted. -/
  login : ∃ later, (connect hasher clientKey options address zone channel).2.sent =
      channel.sent ++ beforeLogin hasher clientKey options channel ++ later ∧
    (later = [] ∨ ∃ keys s,
      approach hasher clientKey options (fresh options channel) = (.done keys, s) ∧
      later <+: s.octetsOf (.login options.user
        (hasher.deriveHash (Utf8.encode options.password) keys.scramble keys.iterations)
        (options.clientAddress.getD address) zone options.tenant
        (Request.binaryRows ||| Request.multiFrame)))
  /-- Who connects has no part in the mark and the client key. -/
  anyone : ∀ user password tenant,
    let other := { options with user := user, password := password, tenant := tenant }
    options.validate = .ok () → other.validate = .ok () →
      beforeKeys clientKey other channel = beforeKeys clientKey options channel
  /-- The password has no part in what is written before the login. -/
  anyPassword : ∀ password,
    beforeLogin hasher clientKey { options with password := password } channel =
      beforeLogin hasher clientKey options channel
  /-- Two passwords by which the server is rejected, if it is heard at all, come to the same outcome
  and the same channel. -/
  rejected : ∀ password, Rejects hasher clientKey options channel →
    Rejects hasher clientKey { options with password := password } channel →
    connect hasher clientKey { options with password := password } address zone channel =
      connect hasher clientKey options address zone channel

/-- What is written before the login is written while hearing. -/
theorem beforeLogin_eq : beforeLogin hasher clientKey options channel =
    match options.validate with
    | .error _ => []
    | .ok () => sentBetween channel
      (hearing clientKey options.user options.tenant (fresh options channel)).2.channel := by
  rw [beforeLogin, channel_approach]

/-- What is written before the client key has come back is the head of the mark and that key. -/
theorem prefix_beforeKeys : ∃ order,
    beforeKeys clientKey options channel <+: Preamble.mark ++ keyOctets clientKey order := by
  obtain ⟨order, ⟨written, le, sent⟩, -⟩ := sends_opening clientKey options channel
  refine ⟨order, ?_⟩
  unfold beforeKeys
  split
  · exact List.nil_prefix
  · rwa [sentBetween, sent, List.drop_left]

/-- Whatever the server sends and whatever the hasher is, a password is not used for anything that
is written before the server's proof was accepted. -/
theorem connect_withholds (hasher : PasswordHasher) (clientKey : Octets) (options : Options)
    (address : String) (zone : Int32) (channel : Channel) :
    Withholds hasher clientKey options address zone channel where
  refused _ := connect_of_invalid
  keys := by
    rcases valid : options.validate with e | _
    · refine ⟨[], ?_, Or.inl rfl⟩
      rw [connect_of_invalid valid, beforeKeys, valid, List.append_nil, List.append_nil]
    · obtain ⟨later, sent, ran⟩ := sent_bind (grows_opening clientKey) (fun keys =>
        (grows_authenticate hasher options clientKey keys).seq fun _ =>
          grows_login hasher options (options.clientAddress.getD address) zone keys)
        (fresh options channel)
      refine ⟨later, ?_, ran.imp_right fun ⟨keys, s, run, _⟩ => ⟨keys, s, run⟩⟩
      rw [sent_connect valid, handshake_eq_opening rfl, sent, beforeKeys, valid]
      rfl
  markAndKey := prefix_beforeKeys
  login := by
    rcases valid : options.validate with e | _
    · refine ⟨[], ?_, Or.inl rfl⟩
      rw [connect_of_invalid valid, beforeLogin, valid, List.append_nil, List.append_nil]
    · obtain ⟨later, sent, ran⟩ := sent_bind (grows_approach hasher clientKey options)
        (grows_login hasher options (options.clientAddress.getD address) zone)
        (fresh options channel)
      refine ⟨later, ?_, ran.imp_right fun ⟨keys, s, run, sent⟩ => ⟨keys, s, run, ?_⟩⟩
      · rw [sent_connect valid, handshake_eq_approach rfl, sent, beforeLogin, valid]
        rfl
      · obtain ⟨⟨written, le, sent'⟩, -⟩ := sends_login hasher options
          (options.clientAddress.getD address) zone keys s
        rwa [List.append_cancel_left (sent.symm.trans sent')]
  anyone user password tenant valid valid' := by
    rw [beforeKeys, beforeKeys, valid, valid']
    rfl
  anyPassword password := by
    rw [beforeLogin_eq, beforeLogin_eq]
    rfl
  rejected password rejects rejects' := by
    rcases valid : options.validate with e | _
    · rw [connect_of_invalid valid, connect_of_invalid (by exact valid)]
    · rw [connect_of_valid valid, connect_of_valid (by exact valid),
        handshake_of_rejects rejects, handshake_of_rejects rejects']
      rfl

/-- With the one password that the server knows a guest is let in. With two others it comes to the
same error, and the server has heard nothing that differs. -/
theorem connect_withholds_guest :
    let hasher : PasswordHasher :=
      ⟨fun password _ _ => password, fun password _ _ _ => password == Utf8.encode "right"⟩
    let connectWith (password : String) := connect hasher [1, 2, 3]
      { guest with password := password } "" 3600 { unread := welcome [1, 2, 3] }
    (connectWith "right").1.isDone = true ∧
      (connectWith "wrong").1 = .failed (.connectFailed .signingKeyRejected) ∧
      connectWith "also wrong" = connectWith "wrong" := by
  have wrong : (Utf8.encode "wrong" == Utf8.encode "right") = false := by decide +kernel
  have alsoWrong : (Utf8.encode "also wrong" == Utf8.encode "right") = false := by decide +kernel
  refine ⟨by decide +kernel, by decide +kernel, ?_⟩
  exact (connect_withholds _ _ { guest with password := "wrong" } _ _ _).rejected "also wrong"
    (fun _ _ _ _ => wrong) (fun _ _ _ _ => alsoWrong)

end Session

end SqlWire
