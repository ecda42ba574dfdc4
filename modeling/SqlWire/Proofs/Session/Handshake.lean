import SqlWire.Proofs.Session.Exchange
import SqlWire.Session.Handshake

/-!
# The four exchanges of a handshake

What each exchange of a handshake takes to succeed, and what it leaves : `exchangeMark` needs four
octets that announce a byte order without a refusal (`exchangeMark_eq_done_iff`), and each of the
other three needs an answered request and one check of its own (`exchangeKeys_eq_done_iff`,
`authenticate_eq_done_iff`, `login_eq_done_iff`).

Whether an exchange succeeds or not, what it writes is the head of the mark or of its one request
(`sends_exchangeMark` and its companions).
-/

namespace SqlWire

/-! ## Checks -/

/-- The octets that announce a byte order and a version, and no refusal. -/
def Preamble.accepting (order : ByteOrder) (version : UInt8) : Octets :=
  [order.flag, version, 0, 0]

/-- Each byte order has one flag. -/
theorem ByteOrder.ofFlag?_eq_some_iff {flag : UInt8} {order : ByteOrder} :
    ByteOrder.ofFlag? flag = some order ↔ flag = order.flag := by
  unfold ByteOrder.ofFlag?
  split
  · cases order <;> decide
  · cases order <;> decide
  · next h0 h1 =>
    cases order with
    | little => exact iff_of_false nofun h0
    | big => exact iff_of_false nofun h1

/-- Two octets write zero in either order exactly if both are zero. -/
theorem ByteOrder.ofNat_toNat_pair_eq_zero_iff (order : ByteOrder) (a b : UInt8) :
    UInt16.ofNat (order.toNat [a, b]) = 0 ↔ a = 0 ∧ b = 0 := by
  have ha := a.toNat_lt
  have hb := b.toNat_lt
  rw [← UInt16.toNat_inj, ← UInt8.toNat_inj, ← UInt8.toNat_inj]
  cases order <;>
  · simp [ByteOrder.toNat, ByteOrder.arrange, Octets.toNat]
    omega

/-- The octets that announce a byte order are read as that. -/
theorem Preamble.decode_accepting (order : ByteOrder) (version : UInt8) :
    Preamble.decode (Preamble.accepting order version) = .ok ⟨order, version, 0⟩ := by
  cases order <;> rfl

/-- Of all preambles that are read, those without a refusal are the ones that announce a byte order.
-/
theorem Preamble.eq_accepting_of_decode {octets : Octets} {preamble : Preamble}
    (h : Preamble.decode octets = .ok preamble) (accepts : preamble.refusal = 0) :
    octets = Preamble.accepting preamble.order preamble.serverVersion := by
  unfold Preamble.decode at h
  split at h
  · next flag version r₀ r₁ =>
    split at h
    · cases h
    · next order horder =>
      cases h
      obtain rfl := ByteOrder.ofFlag?_eq_some_iff.1 horder
      obtain ⟨rfl, rfl⟩ := (order.ofNat_toNat_pair_eq_zero_iff r₀ r₁).1 accepts
      rfl
  · cases h

/-- No octet of the client key is missing or differs exactly if the whole key stands in front. -/
theorem echoMismatch?_eq_none_iff {clientKey scramble : Octets} :
    echoMismatch? clientKey scramble = none ↔ clientKey <+: scramble := by
  induction clientKey generalizing scramble with
  | nil => simp [echoMismatch?]
  | cons k key ih =>
    cases scramble with
    | nil => simp [echoMismatch?]
    | cons s scramble =>
      by_cases h : s = k
      · simp [echoMismatch?, h, ih, List.cons_prefix_cons]
      · simp [echoMismatch?, h, List.cons_prefix_cons, Ne.symm h]

/-- A scramble is accepted exactly if the whole client key stands at its head. -/
theorem checkEcho_eq_ok_iff {clientKey scramble : Octets} {u : Unit} :
    checkEcho clientKey scramble = .ok u ↔ clientKey <+: scramble := by
  unfold checkEcho
  rw [← echoMismatch?_eq_none_iff]
  split <;> simp [*]

/-- Each charset has one number. -/
theorem Charset.ofWire_eq_ok_iff {value : UInt32} {charset : Charset} :
    Charset.ofWire value = .ok charset ↔ value = charset.toWire := by
  unfold Charset.ofWire
  split
  · cases charset <;> decide
  · cases charset <;> decide
  · next h0 h1 =>
    cases charset with
    | utf8 => exact iff_of_false nofun h0
    | gbk => exact iff_of_false nofun h1

/-! ## What succeeds -/

namespace Session

variable {s s' : Session} {u : Unit}

/-- The mark gets through and a byte order is announced without a refusal. -/
theorem exchangeMark_eq_done_iff : exchangeMark s = (.done u, s') ↔
    s.channel.Fits Preamble.mark ∧ ∃ order version c,
      s.channel.sending Preamble.mark = c.behind (Preamble.accepting order version) ∧
      s' = { s with
        channel := c
        order := order
        server := { s.server with preambleVersion := version }
        phase := .orderAgreed } := by
  simp only [exchangeMark, enter, Action.bind_eq_done_iff, onChannel_eq_done_iff,
    Channel.write_eq_done_iff, Channel.read_eq_done_iff, Action.modify_apply,
    Action.ofExcept_apply, Prod.mk.injEq, Action.ofExcept_eq_done_iff]
  constructor
  · rintro ⟨_, _, ⟨_, ⟨fits, rfl⟩, rfl⟩, _, _, ⟨-, rfl⟩, octets, _, ⟨c, ⟨-, split⟩, rfl⟩,
      preamble, _, ⟨decoded, rfl⟩, h⟩
    dsimp only at h
    split_ifs at h with refused
    · cases h
    · cases h
      obtain rfl := Preamble.eq_accepting_of_decode decoded (not_not.1 refused)
      exact ⟨fits, _, _, c, split, rfl⟩
  · rintro ⟨fits, order, version, c, split, rfl⟩
    exact ⟨(), _, ⟨_, ⟨fits, rfl⟩, rfl⟩, (), _, ⟨trivial, rfl⟩, _, _, ⟨c, ⟨rfl, split⟩, rfl⟩, _, _,
      ⟨Preamble.decode_accepting order version, rfl⟩, rfl⟩

/-- The client key is exchanged for a scramble that begins with it and a number of rounds that is
not zero. -/
theorem exchangeKeys_eq_done_iff {clientKey : Octets} {keys : SessionKeys}
    (hb : s.broken = false) : exchangeKeys clientKey s = (.done keys, s') ↔
      ∃ response reply s₁,
        Exchanges (.handshake clientKey) response { s with phase := .keySent } s₁ ∧
        response.result = 0 ∧ (KeyReply.read s.order response.payload).1 = .ok reply ∧
        clientKey <+: reply.scramble ∧ reply.iterations ≠ 0 ∧
        keys = ⟨reply.scramble, reply.iterations⟩ ∧
        s' = { s₁ with
          server := { s₁.server with
            capacity := reply.capacity
            protocolVersion := reply.protocolVersion }
          phase := .keyEchoed } := by
  have asked := @ask_eq_done_iff { s with phase := .keySent }
  simp only [exchangeKeys, enter, Action.modify_bind, Action.bind_eq_done_iff]
  constructor
  · rintro ⟨reply, s₁, hask, _, _, hecho, h⟩
    obtain ⟨response, exchange, hr, hread⟩ := (asked hb).1 hask
    simp only [Action.ofExcept_apply, Prod.mk.injEq, Action.ofExcept_eq_done_iff,
      checkEcho_eq_ok_iff] at hecho
    obtain ⟨echo, rfl⟩ := hecho
    split_ifs at h with zero
    · cases h
    · cases h
      exact ⟨response, reply, s₁, exchange, hr, hread, echo, zero, rfl, rfl⟩
  · rintro ⟨response, reply, s₁, exchange, hr, hread, echo, nonzero, rfl, rfl⟩
    refine ⟨reply, s₁, (asked hb).2 ⟨response, exchange, hr, hread⟩, (), s₁, ?_, ?_⟩
    · rw [Action.ofExcept_apply, checkEcho_eq_ok_iff.2 echo]
      rfl
    · rw [if_neg nonzero]
      rfl

/-- The user is exchanged for a signing key that the hasher accepts. -/
theorem authenticate_eq_done_iff {hasher : PasswordHasher} {options : Options}
    {clientKey : Octets} {keys : SessionKeys} (hb : s.broken = false) :
    authenticate hasher options clientKey keys s = (.done u, s') ↔
      ∃ response challenge s₁,
        Exchanges (.authInit options.user clientKey options.tenant) response
          { s with phase := .userSent } s₁ ∧
        response.result = 0 ∧ (Challenge.read s.order response.payload).1 = .ok challenge ∧
        hasher.verify (Utf8.encode options.password) keys.scramble keys.iterations
          challenge.signingKey = true ∧
        s' = { s₁ with phase := .serverVerified } := by
  have asked := @ask_eq_done_iff { s with phase := .userSent }
  simp only [authenticate, enter, Action.modify_bind, Action.bind_eq_done_iff]
  constructor
  · rintro ⟨challenge, s₁, hask, h⟩
    obtain ⟨response, exchange, hr, hread⟩ := (asked hb).1 hask
    split_ifs at h with rejected
    · cases h
    · cases h
      exact ⟨response, challenge, s₁, exchange, hr, hread, by simpa using rejected, rfl⟩
  · rintro ⟨response, challenge, s₁, exchange, hr, hread, verified, rfl⟩
    refine ⟨challenge, s₁, (asked hb).2 ⟨response, exchange, hr, hread⟩, ?_⟩
    rw [verified]
    rfl

/-- The login is exchanged for a charset that there is. -/
theorem login_eq_done_iff {hasher : PasswordHasher} {options : Options} {address : String}
    {zone : Int32} {keys : SessionKeys} (hb : s.broken = false) :
    login hasher options address zone keys s = (.done u, s') ↔
      ∃ response reply charset s₁,
        Exchanges (.login options.user
            (hasher.deriveHash (Utf8.encode options.password) keys.scramble keys.iterations)
            address zone options.tenant (Request.binaryRows ||| Request.multiFrame))
          response { s with phase := .loginSent } s₁ ∧
        response.result = 0 ∧ (LoginReply.read s.order response.payload).1 = .ok reply ∧
        reply.charset = charset.toWire ∧
        s' = { s₁ with
          charset := charset
          server := { s₁.server with
            sessionId := reply.sessionId
            banner := charset.decode reply.banner }
          phase := .ready } := by
  have asked := @ask_eq_done_iff { s with phase := .loginSent }
  simp only [login, enter, Action.modify_bind, Action.bind_eq_done_iff]
  constructor
  · rintro ⟨reply, s₁, hask, charset, _, hset, h⟩
    obtain ⟨response, exchange, hr, hread⟩ := (asked hb).1 hask
    simp only [Action.ofExcept_apply, Prod.mk.injEq, Action.ofExcept_eq_done_iff,
      Charset.ofWire_eq_ok_iff] at hset
    obtain ⟨legal, rfl⟩ := hset
    cases h
    exact ⟨response, reply, charset, s₁, exchange, hr, hread, legal, rfl⟩
  · rintro ⟨response, reply, charset, s₁, exchange, hr, hread, legal, rfl⟩
    refine ⟨reply, s₁, (asked hb).2 ⟨response, exchange, hr, hread⟩, charset, s₁, ?_, rfl⟩
    rw [Action.ofExcept_apply, Charset.ofWire_eq_ok_iff.2 legal]
    rfl

/-! ## What is written -/

/-- Nothing is written between two sessions. -/
def Silent (s s' : Session) : Prop :=
  Channel.Quiet s.channel s'.channel

instance : Std.Refl Silent :=
  ⟨fun _ => ⟨rfl, rfl⟩⟩

instance : IsTrans Session Silent :=
  ⟨fun _ _ _ h h' => ⟨h'.1.trans h.1, h'.2.trans h.2⟩⟩

/-- What leaves the channel alone is silent. -/
theorem silent_modify {f : Session → Session} (h : ∀ s, (f s).channel = s.channel) :
    Action.Respects Silent (.modify f) :=
  .modify fun s => ⟨congrArg Channel.sent (h s), congrArg Channel.shutdowns (h s)⟩

/-- Reading is silent. -/
theorem silent_read (n : Nat) : Action.Respects Silent (onChannel (Channel.read n)) :=
  (Channel.consumes_read n).within fun _ _ h => h.quiet

/-- If what depends on an answer is silent, only the request is written. -/
theorem sends_ask_bind {α β : Type} {r : Request} {reader : Wire.Reader α}
    {f : α → Action Session β} (hf : ∀ a, Action.Respects Silent (f a)) (s : Session) :
    Channel.Sends (s.octetsOf r) s.channel ((ask r reader >>= f) s).2.channel := by
  have asked := sends_request r s
  rw [← ask_state r reader] at asked
  rcases Action.bind_cases (ask r reader) f s with ⟨a, s', hx, hb⟩ | ⟨-, hb, -⟩
  · rw [hx] at asked
    rw [hb]
    exact asked.quiet (hf a s')
  · rw [hb]
    exact asked

/-- The first exchange writes nothing but the mark. -/
theorem sends_exchangeMark (s : Session) :
    Channel.Sends Preamble.mark s.channel (exchangeMark s).2.channel := by
  have written : Action.Respects (fun s s' : Session =>
      Channel.Sends Preamble.mark s.channel s'.channel) (onChannel (Channel.write Preamble.mark)) :=
    (Channel.sends_write Preamble.mark).within fun _ _ h => h
  refine written.bind (Q := Silent) (fun _ => ?_) (fun _ _ h => h)
    (fun _ _ _ h same => h.quiet same) s
  refine (silent_modify fun _ => by rfl).seq fun _ => (silent_read _).seq fun _ =>
    (Action.Respects.ofExcept _).seq fun preamble => ?_
  dsimp only
  split
  · exact .fail _
  · exact (silent_modify fun _ => by rfl).seq fun _ => silent_modify fun _ => by rfl

/-- The second exchange writes nothing but the request with the client key. -/
theorem sends_exchangeKeys (clientKey : Octets) (s : Session) :
    Channel.Sends (s.octetsOf (.handshake clientKey)) s.channel
      (exchangeKeys clientKey s).2.channel := by
  refine sends_ask_bind (fun reply => (Action.Respects.ofExcept _).seq fun _ => ?_)
    { s with phase := .keySent }
  dsimp only
  split
  · exact .fail _
  · exact (silent_modify fun _ => by rfl).seq fun _ => (silent_modify fun _ => by rfl).seq fun _ =>
      .pure _

/-- The third exchange writes nothing but the request that names the user. -/
theorem sends_authenticate (hasher : PasswordHasher) (options : Options) (clientKey : Octets)
    (keys : SessionKeys) (s : Session) :
    Channel.Sends (s.octetsOf (.authInit options.user clientKey options.tenant)) s.channel
      (authenticate hasher options clientKey keys s).2.channel := by
  refine sends_ask_bind (fun challenge => ?_) { s with phase := .userSent }
  dsimp only
  split
  · exact .fail _
  · exact silent_modify fun _ => by rfl

/-- The last exchange writes nothing but the login. -/
theorem sends_login (hasher : PasswordHasher) (options : Options) (address : String) (zone : Int32)
    (keys : SessionKeys) (s : Session) :
    Channel.Sends (s.octetsOf (.login options.user
        (hasher.deriveHash (Utf8.encode options.password) keys.scramble keys.iterations)
        address zone options.tenant (Request.binaryRows ||| Request.multiFrame))) s.channel
      (login hasher options address zone keys s).2.channel :=
  sends_ask_bind (fun _ => (Action.Respects.ofExcept _).seq fun _ =>
    (silent_modify fun _ => by rfl).seq fun _ => silent_modify fun _ => by rfl)
    { s with phase := .loginSent }

/-! ## What fails -/

section

open Wire.Reader

theorem careful_keyReply : Careful KeyReply.read :=
  careful_u32.bind fun _ => careful_u32.bind fun _ => careful_field.bind fun _ =>
    careful_u32.bind fun _ => .pure _

theorem careful_challenge : Careful Challenge.read :=
  careful_field.bind fun _ => .pure _

theorem careful_loginReply : Careful LoginReply.read :=
  careful_u32.bind fun _ => careful_u32.bind fun _ => careful_field.bind fun _ => .pure _

end

theorem failsOnly_exchangeMark (s : Session) :
    (exchangeMark s).1.FailsOnly (·.isConnectFailure = false) := by
  refine Action.failsOnly_bind (fun e he => Error.isConnectFailure_of_fault
    (Or.inl (Channel.failsOnly_write _ _ e he))) fun _ _ _ => ?_
  refine Action.failsOnly_bind (Outcome.failsOnly_done _) fun _ _ _ => ?_
  refine Action.failsOnly_bind (fun e he => Error.isConnectFailure_of_fault
    (Or.inl (Channel.failsOnly_read _ _ e he))) fun octets _ _ => ?_
  refine Action.failsOnly_bind (Outcome.failsOnly_ofExcept fun e he => ?_) fun preamble _ _ => ?_
  · unfold Preamble.decode at he
    split at he
    · split at he
      · cases he
        rfl
      · cases he
    · cases he
      rfl
  · dsimp only
    split
    · exact Outcome.failsOnly_failed rfl
    · exact Outcome.failsOnly_done _

theorem failsOnly_exchangeKeys (clientKey : Octets) (s : Session) :
    (exchangeKeys clientKey s).1.FailsOnly (·.isConnectFailure = false) := by
  refine Action.failsOnly_bind (Outcome.failsOnly_done _) fun _ s' _ => ?_
  refine Action.failsOnly_bind (failsOnly_ask careful_keyReply _ s') fun reply _ _ => ?_
  refine Action.failsOnly_bind (Outcome.failsOnly_ofExcept fun e he => ?_) fun _ _ _ => ?_
  · unfold checkEcho at he
    split at he
    · cases he
    · cases he
      rfl
  · dsimp only
    split
    · exact Outcome.failsOnly_failed rfl
    · exact Outcome.failsOnly_done _

theorem failsOnly_authenticate (hasher : PasswordHasher) (options : Options) (clientKey : Octets)
    (keys : SessionKeys) (s : Session) :
    (authenticate hasher options clientKey keys s).1.FailsOnly (·.isConnectFailure = false) := by
  refine Action.failsOnly_bind (Outcome.failsOnly_done _) fun _ s' _ => ?_
  refine Action.failsOnly_bind (failsOnly_ask careful_challenge _ s') fun challenge _ _ => ?_
  dsimp only
  split
  · exact Outcome.failsOnly_failed rfl
  · exact Outcome.failsOnly_done _

theorem failsOnly_login (hasher : PasswordHasher) (options : Options) (address : String)
    (zone : Int32) (keys : SessionKeys) (s : Session) :
    (login hasher options address zone keys s).1.FailsOnly (·.isConnectFailure = false) := by
  refine Action.failsOnly_bind (Outcome.failsOnly_done _) fun _ s' _ => ?_
  refine Action.failsOnly_bind (failsOnly_ask careful_loginReply _ s') fun reply _ _ => ?_
  refine Action.failsOnly_bind (Outcome.failsOnly_ofExcept fun e he => ?_) fun charset _ _ =>
    Outcome.failsOnly_done _
  unfold Charset.ofWire at he
  split at he
  · cases he
  · cases he
  · cases he
    rfl

/-! ## The whole handshake -/

variable {hasher : PasswordHasher} {clientKey : Octets} {options : Options} {address : String}
  {zone : Int32}

/-- On a fresh connection the four exchanges follow each other. -/
theorem handshake_of_idle (h : s.phase = .idle) :
    handshake hasher clientKey options address zone s =
      (exchangeMark >>= fun _ => exchangeKeys clientKey >>= fun keys =>
        authenticate hasher options clientKey keys >>= fun _ =>
          login hasher options address zone keys) s := by
  simp only [handshake, Action.get_bind, h, ne_eq, not_true_eq_false, if_false]

/-- A handshake fails with what went wrong, and never with a failed connection attempt. -/
theorem failsOnly_handshake (h : s.phase = .idle) :
    (handshake hasher clientKey options address zone s).1.FailsOnly
      (·.isConnectFailure = false) := by
  rw [handshake_of_idle h]
  exact Action.failsOnly_bind (failsOnly_exchangeMark s) fun _ _ _ =>
    Action.failsOnly_bind (failsOnly_exchangeKeys _ _) fun _ _ _ =>
      Action.failsOnly_bind (failsOnly_authenticate _ _ _ _ _) fun _ _ _ =>
        failsOnly_login _ _ _ _ _ _

/-- The session that a connection attempt starts from. -/
def fresh (options : Options) (channel : Channel) : Session :=
  { channel := channel, fetchSize := options.fetchSize }

/-- A failure that is given up on is reported as such, unless the channel never shuts down. -/
theorem giveUp_eq (cause : Error) (channel : Channel) : giveUp cause channel =
    (if channel.atShutdown = some .stalled then .suspended else .failed cause.asConnectFailure,
      { channel with shutdowns := channel.shutdowns + 1 }) := by
  simp only [giveUp, Channel.shutdown]
  cases channel.atShutdown with
  | none => rfl
  | some hindrance => cases hindrance <;> rfl

/-- Who gives up has no session. -/
theorem giveUp_ne_done (cause : Error) (channel opened : Channel) (s : Session) :
    giveUp cause channel ≠ (.done s, opened) := by
  rw [giveUp_eq]
  split_ifs <;> exact nofun

/-- A session is opened exactly if the options are acceptable and the handshake succeeds. -/
theorem connect_eq_done_iff_handshake {channel opened : Channel} :
    connect hasher clientKey options address zone channel = (.done s, opened) ↔
      options.validate = .ok () ∧ opened = s.channel ∧
      handshake hasher clientKey options (options.clientAddress.getD address) zone
        (fresh options channel) = (.done (), s) := by
  unfold connect
  cases hv : options.validate with
  | error e => exact ⟨nofun, nofun⟩
  | ok u =>
    cases hh : handshake hasher clientKey options (options.clientAddress.getD address) zone
        (fresh options channel) with
    | mk outcome s' =>
      simp only [show handshake hasher clientKey options (options.clientAddress.getD address) zone
        { channel := channel, fetchSize := options.fetchSize } = _ from hh]
      cases outcome with
      | done _ =>
        constructor
        · rintro ⟨⟩
          exact ⟨trivial, rfl, rfl⟩
        · rintro ⟨-, rfl, ⟨⟩⟩
          rfl
      | failed e => exact iff_of_false (giveUp_ne_done e s'.channel opened s) nofun
      | suspended => exact ⟨nofun, nofun⟩

/-- Options that are not acceptable are refused before the channel is used. -/
theorem connect_of_invalid {e : Error} {channel : Channel} (invalid : options.validate = .error e) :
    connect hasher clientKey options address zone channel = (.failed e, channel) := by
  unfold connect
  rw [invalid]

/-- With acceptable options, connecting is what comes of the handshake. -/
theorem connect_of_valid (valid : options.validate = .ok ()) (address : String) (zone : Int32)
    (channel : Channel) : connect hasher clientKey options address zone channel =
      match handshake hasher clientKey options (options.clientAddress.getD address) zone
        (fresh options channel) with
      | (.done (), s) => (.done s, s.channel)
      | (.failed cause, s) => giveUp cause s.channel
      | (.suspended, s) => (.suspended, s.channel) := by
  unfold connect
  rw [valid]
  rfl

/-- Shutting a channel down writes nothing, so what is written is written by the handshake. -/
theorem sent_connect (valid : options.validate = .ok ()) (address : String) (zone : Int32)
    (channel : Channel) : (connect hasher clientKey options address zone channel).2.sent =
      (handshake hasher clientKey options (options.clientAddress.getD address) zone
        (fresh options channel)).2.channel.sent := by
  rw [connect_of_valid valid]
  split
  · next h => rw [h]
  · next h => rw [h, giveUp_eq]
  · next h => rw [h]

/-- A connection attempt that fails is a handshake that has failed, and one more attempt to shut
down. -/
theorem connect_eq_failed (valid : options.validate = .ok ()) {address : String} {zone : Int32}
    {channel : Channel} {e : Error}
    (h : (connect hasher clientKey options address zone channel).1 = .failed e) : ∃ cause,
      (handshake hasher clientKey options (options.clientAddress.getD address) zone
        (fresh options channel)).1 = .failed cause ∧
      e = cause.asConnectFailure ∧
      (connect hasher clientKey options address zone channel).2.shutdowns =
        (handshake hasher clientKey options (options.clientAddress.getD address) zone
          (fresh options channel)).2.channel.shutdowns + 1 := by
  rw [connect_of_valid valid] at h ⊢
  split at h
  · cases h
  · next cause s' hh =>
    rw [giveUp_eq] at h ⊢
    split_ifs at h
    cases h
    rw [hh]
    exact ⟨_, rfl, rfl, rfl⟩
  · cases h

/-- A connection is opened exactly if the options are acceptable and the four exchanges succeed. -/
theorem connect_eq_done_iff {channel opened : Channel} :
    connect hasher clientKey options address zone channel = (.done s, opened) ↔
      options.validate = .ok () ∧ opened = s.channel ∧ ∃ s₁ keys s₂ s₃,
        exchangeMark (fresh options channel) = (.done (), s₁) ∧
        exchangeKeys clientKey s₁ = (.done keys, s₂) ∧
        authenticate hasher options clientKey keys s₂ = (.done (), s₃) ∧
        login hasher options (options.clientAddress.getD address) zone keys s₃ = (.done (), s) := by
  rw [connect_eq_done_iff_handshake, handshake_of_idle rfl]
  simp only [Action.bind_eq_done_iff]
  constructor
  · rintro ⟨valid, rfl, _, s₁, hmark, keys, s₂, hkeys, _, s₃, hauth, hlogin⟩
    exact ⟨valid, rfl, s₁, keys, s₂, s₃, hmark, hkeys, hauth, hlogin⟩
  · rintro ⟨valid, rfl, s₁, keys, s₂, s₃, hmark, hkeys, hauth, hlogin⟩
    exact ⟨valid, rfl, (), s₁, hmark, keys, s₂, hkeys, (), s₃, hauth, hlogin⟩

/-! ## A server that lets a guest in -/

/-- Options with nothing but a user. -/
def guest : Options :=
  { user := "guest" }

/-- A hasher that takes any server for the right one. -/
def trusting : PasswordHasher :=
  ⟨fun _ _ _ => [], fun _ _ _ _ => true⟩

/-- Everything that a server sends while it lets a client with this key in. -/
def welcome (clientKey : Octets) : Octets :=
  Preamble.accepting .big 1 ++ Response.success 1 [.u32 0, .u32 1, .field clientKey, .u32 1] ++
    Response.success 2 [.field [7]] ++ Response.success 3 [.u32 0, .u32 1, .field []]

end Session

end SqlWire
