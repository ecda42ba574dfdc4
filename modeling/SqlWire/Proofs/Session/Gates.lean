import SqlWire.Proofs.Session.Handshake

/-!
# What a server has to say to be told more

Each exchange of a handshake is a gate in front of the next one. The gates are stated over the
octets of the server : the preamble announces a byte order and no refusal, the scramble begins with
the whole client key (`KeyEchoed`), the signing key is the one of the password (`Proved`), and the
charset is a legal one (`Admitted`).

`Permitted` lists what a client may write by the gates that the server has passed. Connecting never
writes anything but the head of such a list (`connect_gated`), and it opens a session exactly if all
four gates are passed and every request could be written. A failed attempt wraps one cause, which is
not itself a failed attempt (`failsOnly_handshake`). All of this holds of any hasher, any address
and time zone that the client reports of itself, and any channel.
-/

namespace SqlWire

/-! ## Channels in the course of a handshake -/

namespace Channel

/-- The channel when `written` was sent and `unread` is still to be read. -/
def after (c : Channel) (written unread : Octets) : Channel :=
  { c.sending written with unread := unread }

variable {c c' : Channel} {written written' unread octets : Octets}

/-- Octets fit in one piece exactly if they fit in two. -/
theorem fits_append_iff :
    c.Fits (written ++ written') ↔ c.Fits written ∧ (c.after written unread).Fits written' := by
  simp only [Fits, after, sending, List.length_append]
  cases c.room with
  | none => simp
  | some room =>
    simp only [Option.mem_def, Option.some.injEq, forall_eq', Option.map_some]
    cases c.brimming <;> simp <;> omega

/-- Writing goes on from what was written. -/
theorem sending_after (c : Channel) (written written' unread : Octets) :
    (c.after written unread).sending written' = c.after (written ++ written') unread := by
  cases hr : c.room <;> simp [after, sending, hr, List.append_assoc, Nat.sub_sub]

/-- The channel has gone on to another one exactly by reading the octets in front of what is left
there. -/
theorem after_eq_behind_iff : c.after written unread = c'.behind octets ↔
    unread = octets ++ c'.unread ∧ c' = c.after written c'.unread := by
  constructor
  · intro h
    have read : unread = octets ++ c'.unread := congrArg Channel.unread h
    refine ⟨read, ?_⟩
    calc
      c' = { c'.behind octets with unread := c'.unread } := rfl
      _ = c.after written c'.unread := by rw [← h]; rfl
  · rintro ⟨rfl, h⟩
    rw [h]
    rfl

/-- What goes out after `written` goes on from it. -/
theorem Sends.of_after (h : Sends octets (c.after written unread) c') :
    Sends (written ++ octets) c c' := by
  obtain ⟨⟨more, le, sent⟩, shut⟩ := h
  refine ⟨⟨written ++ more, (List.prefix_append_right_inj written).2 le, ?_⟩, shut⟩
  rw [sent, ← List.append_assoc]
  rfl

end Channel

/-! ## Gates -/

/-- The stream goes on with the whole answer to a request, a success that carries `payload`. -/
def Answered (order : ByteOrder) (seq : UInt32) (unread payload rest : Octets) : Prop :=
  ∃ octets frames response, unread = octets ++ rest ∧ Frame.Chain order octets frames ∧
    Response.Answers seq frames response ∧ response.result = 0 ∧ response.payload = payload

/-- The server returns the whole client key at the head of its scramble, and a number of rounds. -/
def KeyEchoed (clientKey : Octets) (order : ByteOrder) (unread : Octets) (reply : KeyReply)
    (rest : Octets) : Prop :=
  ∃ payload, Answered order 1 unread payload rest ∧
    (KeyReply.read order payload).1 = .ok reply ∧ clientKey <+: reply.scramble ∧
    reply.iterations ≠ 0

/-- The server presents a signing key that the hasher accepts. -/
def Proved (hasher : PasswordHasher) (password : String) (order : ByteOrder) (keys : KeyReply)
    (unread rest : Octets) : Prop :=
  ∃ payload challenge, Answered order 2 unread payload rest ∧
    (Challenge.read order payload).1 = .ok challenge ∧
    hasher.verify (Utf8.encode password) keys.scramble keys.iterations challenge.signingKey = true

/-- The server accepts the login and chooses a legal charset. -/
def Admitted (order : ByteOrder) (unread : Octets) (charset : Charset) (reply : LoginReply)
    (rest : Octets) : Prop :=
  ∃ payload, Answered order 3 unread payload rest ∧
    (LoginReply.read order payload).1 = .ok reply ∧ reply.charset = charset.toWire

namespace Session

variable {s s' : Session} {u : Unit} {c : Channel} {written unread : Octets}

/-- What is read of an exchange over a channel of which so much is known is the next answer. -/
theorem Exchanges.answered {r : Request} {response : Response}
    (exchange : Exchanges r response s s') (hs : s.channel = c.after written unread)
    (hr : response.result = 0) :
    (c.after written unread).Fits (s.octetsOf r) ∧ ∃ rest,
      Answered s.order (s.seq + 1) unread response.payload rest ∧
      s' = { s with
        seq := s.seq + 1
        channel := c.after (written ++ s.octetsOf r) rest } := by
  obtain ⟨fits, octets, frames, c', chain, answers, split, rfl⟩ := exchange
  rw [hs] at fits
  rw [hs, Channel.sending_after, Channel.after_eq_behind_iff] at split
  obtain ⟨rfl, hc⟩ := split
  refine ⟨fits, c'.unread, ⟨octets, frames, response, rfl, chain, answers, hr, rfl⟩, ?_⟩
  rw [← hc]

/-- A request that fits is answered if the stream goes on with an answer. -/
theorem exists_exchanges {r : Request} {payload rest : Octets}
    (hs : s.channel = c.after written unread) (fits : (c.after written unread).Fits (s.octetsOf r))
    (answered : Answered s.order (s.seq + 1) unread payload rest) : ∃ response,
      response.result = 0 ∧ response.payload = payload ∧ Exchanges r response s { s with
        seq := s.seq + 1
        channel := c.after (written ++ s.octetsOf r) rest } := by
  obtain ⟨octets, frames, response, rfl, chain, answers, hr, rfl⟩ := answered
  refine ⟨response, hr, rfl, hs ▸ fits, octets, frames, _, chain, answers, ?_, rfl⟩
  rw [hs, Channel.sending_after, Channel.after_eq_behind_iff]
  exact ⟨rfl, rfl⟩

/-! ## The requests and the sessions between them -/

/-- The octets that offer the client key. -/
def keyOctets (clientKey : Octets) (order : ByteOrder) : Octets :=
  (Request.handshake clientKey).octets order .utf8 0 1

/-- The octets that name the user. -/
def userOctets (options : Options) (clientKey : Octets) (order : ByteOrder) (capacity : UInt32) :
    Octets :=
  (Request.authInit options.user clientKey options.tenant).octets order .utf8 capacity 2

/-- The octets that prove knowledge of the password and describe the client. -/
def loginOctets (hasher : PasswordHasher) (options : Options) (address : String) (zone : Int32)
    (order : ByteOrder) (keys : KeyReply) : Octets :=
  (Request.login options.user
    (hasher.deriveHash (Utf8.encode options.password) keys.scramble keys.iterations) address zone
    options.tenant (Request.binaryRows ||| Request.multiFrame)).octets order .utf8 keys.capacity 3

/-- What a client may write : the mark, the key once a byte order is agreed on, the user once the
key has come back, and the proof of the password once the server has given its own. -/
inductive Permitted (hasher : PasswordHasher) (clientKey : Octets) (options : Options)
    (address : String) (zone : Int32) (unread : Octets) : Octets → Prop where
  | mark : Permitted hasher clientKey options address zone unread Preamble.mark
  | key {order : ByteOrder} {version : UInt8} {rest : Octets}
      (agreed : unread = Preamble.accepting order version ++ rest) :
      Permitted hasher clientKey options address zone unread
        (Preamble.mark ++ keyOctets clientKey order)
  | user {order : ByteOrder} {version : UInt8} {keys : KeyReply} {rest rest' : Octets}
      (agreed : unread = Preamble.accepting order version ++ rest)
      (echoed : KeyEchoed clientKey order rest keys rest') :
      Permitted hasher clientKey options address zone unread
        (Preamble.mark ++ keyOctets clientKey order ++
          userOctets options clientKey order keys.capacity)
  | login {order : ByteOrder} {version : UInt8} {keys : KeyReply} {rest rest' rest'' : Octets}
      (agreed : unread = Preamble.accepting order version ++ rest)
      (echoed : KeyEchoed clientKey order rest keys rest')
      (proved : Proved hasher options.password order keys rest' rest'') :
      Permitted hasher clientKey options address zone unread
        (Preamble.mark ++ keyOctets clientKey order ++
          userOctets options clientKey order keys.capacity ++
          loginOctets hasher options address zone order keys)

/-- The session once a byte order is agreed on. -/
def agreed (options : Options) (channel : Channel) (order : ByteOrder) (version : UInt8)
    (rest : Octets) : Session :=
  { fresh options channel with
    channel := channel.after Preamble.mark rest
    order := order
    server := { preambleVersion := version }
    phase := .orderAgreed }

/-- The session once the key has come back. -/
def echoed (clientKey : Octets) (options : Options) (channel : Channel) (order : ByteOrder)
    (version : UInt8) (keys : KeyReply) (rest : Octets) : Session :=
  { agreed options channel order version rest with
    channel := channel.after (Preamble.mark ++ keyOctets clientKey order) rest
    seq := 1
    server := {
      preambleVersion := version
      capacity := keys.capacity
      protocolVersion := keys.protocolVersion }
    phase := .keyEchoed }

/-- The session once the server has proved that it knows the password. -/
def proved (clientKey : Octets) (options : Options) (channel : Channel) (order : ByteOrder)
    (version : UInt8) (keys : KeyReply) (rest : Octets) : Session :=
  { echoed clientKey options channel order version keys rest with
    channel := channel.after (Preamble.mark ++ keyOctets clientKey order ++
      userOctets options clientKey order keys.capacity) rest
    seq := 2
    phase := .serverVerified }

/-- The session that a connection ends in. -/
def admitted (hasher : PasswordHasher) (clientKey : Octets) (options : Options) (address : String)
    (zone : Int32) (channel : Channel) (order : ByteOrder) (version : UInt8) (keys : KeyReply)
    (charset : Charset) (reply : LoginReply) (rest : Octets) : Session :=
  { echoed clientKey options channel order version keys rest with
    channel := channel.after (Preamble.mark ++ keyOctets clientKey order ++
      userOctets options clientKey order keys.capacity ++
      loginOctets hasher options address zone order keys) rest
    seq := 3
    charset := charset
    server := {
      preambleVersion := version
      capacity := keys.capacity
      protocolVersion := keys.protocolVersion
      sessionId := reply.sessionId
      banner := charset.decode reply.banner }
    phase := .ready }

/-- The server passes the four gates, all requests fit, and this session comes of it. -/
inductive Opens (hasher : PasswordHasher) (clientKey : Octets) (options : Options)
    (address : String) (zone : Int32) (channel : Channel) : Session → Prop where
  | intro {order : ByteOrder} {version : UInt8} {keys : KeyReply} {charset : Charset}
      {reply : LoginReply} {rest₁ rest₂ rest₃ rest₄ : Octets}
      (agreed : channel.unread = Preamble.accepting order version ++ rest₁)
      (echoed : KeyEchoed clientKey order rest₁ keys rest₂)
      (proved : Proved hasher options.password order keys rest₂ rest₃)
      (admission : Admitted order rest₃ charset reply rest₄)
      (fits : channel.Fits (Preamble.mark ++ keyOctets clientKey order ++
        userOctets options clientKey order keys.capacity ++
        loginOctets hasher options address zone order keys)) :
      Opens hasher clientKey options address zone channel
        (admitted hasher clientKey options address zone channel order version keys charset reply
          rest₄)

/-! ## What passes -/

section

variable {hasher : PasswordHasher} {clientKey : Octets} {options : Options} {address : String}
  {zone : Int32} {channel : Channel} {order : ByteOrder} {version : UInt8} {keys : KeyReply}
  {rest : Octets}

/-- The first gate : a preamble that announces a byte order and no refusal. -/
theorem exchangeMark_fresh_eq_done_iff :
    exchangeMark (fresh options channel) = (.done u, s) ↔ channel.Fits Preamble.mark ∧
      ∃ order version rest, channel.unread = Preamble.accepting order version ++ rest ∧
        s = agreed options channel order version rest := by
  have start : (fresh options channel).channel.sending Preamble.mark =
      channel.after Preamble.mark channel.unread := rfl
  simp only [exchangeMark_eq_done_iff, start, Channel.after_eq_behind_iff]
  constructor
  · rintro ⟨fits, order, version, c, ⟨hread, hc⟩, rfl⟩
    refine ⟨fits, order, version, c.unread, hread, ?_⟩
    rw [hc]
    rfl
  · rintro ⟨fits, order, version, rest, hread, rfl⟩
    exact ⟨fits, order, version, _, ⟨hread, rfl⟩, rfl⟩

/-- The second gate : the client key comes back. -/
theorem exchangeKeys_agreed_eq_done_iff {sessionKeys : SessionKeys} :
    exchangeKeys clientKey (agreed options channel order version rest) = (.done sessionKeys, s) ↔
      (channel.after Preamble.mark rest).Fits (keyOctets clientKey order) ∧
      ∃ keys rest', KeyEchoed clientKey order rest keys rest' ∧
        sessionKeys = ⟨keys.scramble, keys.iterations⟩ ∧
        s = echoed clientKey options channel order version keys rest' := by
  rw [exchangeKeys_eq_done_iff rfl]
  constructor
  · rintro ⟨response, keys, s₁, exchange, hr, hread, echo, nonzero, rfl, rfl⟩
    obtain ⟨fits, rest', answered, rfl⟩ := exchange.answered rfl hr
    exact ⟨fits, keys, rest', ⟨_, answered, hread, echo, nonzero⟩, rfl, rfl⟩
  · rintro ⟨fits, keys, rest', ⟨payload, answered, hread, echo, nonzero⟩, rfl, rfl⟩
    obtain ⟨response, hr, rfl, exchange⟩ := exists_exchanges
      (s := { agreed options channel order version rest with phase := .keySent }) rfl fits answered
    exact ⟨response, keys, _, exchange, hr, hread, echo, nonzero, rfl, rfl⟩

/-- The third gate : the server proves that it knows the password. -/
theorem authenticate_echoed_eq_done_iff :
    authenticate hasher options clientKey ⟨keys.scramble, keys.iterations⟩
        (echoed clientKey options channel order version keys rest) = (.done u, s) ↔
      (channel.after (Preamble.mark ++ keyOctets clientKey order) rest).Fits
        (userOctets options clientKey order keys.capacity) ∧
      ∃ rest', Proved hasher options.password order keys rest rest' ∧
        s = proved clientKey options channel order version keys rest' := by
  rw [authenticate_eq_done_iff rfl]
  constructor
  · rintro ⟨response, challenge, s₁, exchange, hr, hread, verified, rfl⟩
    obtain ⟨fits, rest', answered, rfl⟩ := exchange.answered rfl hr
    exact ⟨fits, rest', ⟨_, challenge, answered, hread, verified⟩, rfl⟩
  · rintro ⟨fits, rest', ⟨payload, challenge, answered, hread, verified⟩, rfl⟩
    obtain ⟨response, hr, rfl, exchange⟩ := exists_exchanges
      (s := { echoed clientKey options channel order version keys rest with phase := .userSent })
      rfl fits answered
    exact ⟨response, challenge, _, exchange, hr, hread, verified, rfl⟩

/-- The last gate : the login is accepted with a legal charset. -/
theorem login_proved_eq_done_iff :
    login hasher options address zone ⟨keys.scramble, keys.iterations⟩
        (proved clientKey options channel order version keys rest) = (.done u, s) ↔
      (channel.after (Preamble.mark ++ keyOctets clientKey order ++
        userOctets options clientKey order keys.capacity) rest).Fits
        (loginOctets hasher options address zone order keys) ∧
      ∃ charset reply rest', Admitted order rest charset reply rest' ∧
        s = admitted hasher clientKey options address zone channel order version keys charset reply
          rest' := by
  rw [login_eq_done_iff rfl]
  constructor
  · rintro ⟨response, reply, charset, s₁, exchange, hr, hread, legal, rfl⟩
    obtain ⟨fits, rest', answered, rfl⟩ := exchange.answered rfl hr
    exact ⟨fits, charset, reply, rest', ⟨_, answered, hread, legal⟩, rfl⟩
  · rintro ⟨fits, charset, reply, rest', ⟨payload, answered, hread, legal⟩, rfl⟩
    obtain ⟨response, hr, rfl, exchange⟩ := exists_exchanges
      (s := { proved clientKey options channel order version keys rest with phase := .loginSent })
      rfl fits answered
    exact ⟨response, reply, charset, _, exchange, hr, hread, legal, rfl⟩

/-- Whatever becomes of a handshake, it writes the head of what is permitted. -/
theorem sends_handshake : ∃ permitted,
    Permitted hasher clientKey options address zone channel.unread permitted ∧
      Channel.Sends permitted channel
        (handshake hasher clientKey options address zone (fresh options channel)).2.channel := by
  rw [handshake_of_idle rfl]
  rcases Action.bind_cases exchangeMark _ (fresh options channel) with
    ⟨_, s₁, hmark, hb⟩ | ⟨-, hb, -⟩ <;> rw [hb]
  swap
  · exact ⟨_, .mark, sends_exchangeMark _⟩
  obtain ⟨-, order, version, rest, hread, rfl⟩ := exchangeMark_fresh_eq_done_iff.1 hmark
  have written := sends_exchangeKeys clientKey (agreed options channel order version rest)
  rcases Action.bind_cases (exchangeKeys clientKey) _ (agreed options channel order version rest)
    with ⟨_, s₂, hkeys, hb⟩ | ⟨-, hb, -⟩ <;> rw [hb]
  swap
  · exact ⟨_, .key hread, written.of_after⟩
  obtain ⟨-, keys, rest', echo, rfl, rfl⟩ := exchangeKeys_agreed_eq_done_iff.1 hkeys
  have written := sends_authenticate hasher options clientKey ⟨keys.scramble, keys.iterations⟩
    (echoed clientKey options channel order version keys rest')
  rcases Action.bind_cases (authenticate hasher options clientKey _) _
    (echoed clientKey options channel order version keys rest') with
    ⟨_, s₃, hauth, hb⟩ | ⟨-, hb, -⟩ <;> rw [hb]
  swap
  · exact ⟨_, .user hread echo, written.of_after⟩
  obtain ⟨-, rest'', proof, rfl⟩ := authenticate_echoed_eq_done_iff.1 hauth
  have written := sends_login hasher options address zone ⟨keys.scramble, keys.iterations⟩
    (proved clientKey options channel order version keys rest'')
  exact ⟨_, .login hread echo proof, written.of_after⟩

/-- A handshake succeeds exactly if the server passes the four gates and all requests fit. -/
theorem handshake_fresh_eq_done_iff :
    handshake hasher clientKey options address zone (fresh options channel) = (.done u, s) ↔
      Opens hasher clientKey options address zone channel s := by
  rw [handshake_of_idle rfl]
  simp only [Action.bind_eq_done_iff]
  constructor
  · rintro ⟨_, _, hmark, _, _, hkeys, _, _, hauth, hlogin⟩
    obtain ⟨fits₁, order, version, rest₁, hread, rfl⟩ := exchangeMark_fresh_eq_done_iff.1 hmark
    obtain ⟨fits₂, keys, rest₂, echo, rfl, rfl⟩ := exchangeKeys_agreed_eq_done_iff.1 hkeys
    obtain ⟨fits₃, rest₃, proof, rfl⟩ := authenticate_echoed_eq_done_iff.1 hauth
    obtain ⟨fits₄, charset, reply, rest₄, admission, rfl⟩ := login_proved_eq_done_iff.1 hlogin
    have fits := Channel.fits_append_iff.2 ⟨Channel.fits_append_iff.2
      ⟨Channel.fits_append_iff.2 ⟨fits₁, fits₂⟩, fits₃⟩, fits₄⟩
    exact .intro hread echo proof admission fits
  · rintro ⟨hread, echo, proof, admission, fits⟩
    obtain ⟨fits, fits₄⟩ := Channel.fits_append_iff.1 fits
    obtain ⟨fits, fits₃⟩ := Channel.fits_append_iff.1 fits
    obtain ⟨fits₁, fits₂⟩ := Channel.fits_append_iff.1 fits
    exact ⟨(), _, exchangeMark_fresh_eq_done_iff.2 ⟨fits₁, _, _, _, hread, rfl⟩,
      _, _, exchangeKeys_agreed_eq_done_iff.2 ⟨fits₂, _, _, echo, rfl, rfl⟩,
      (), _, authenticate_echoed_eq_done_iff.2 ⟨fits₃, _, proof, rfl⟩,
      login_proved_eq_done_iff.2 ⟨fits₄, _, _, _, admission, rfl⟩⟩

end

/-! ## Connecting -/

/-- What connecting comes to : it writes no more than is permitted, it opens a session exactly if
all gates are passed, and what else ends it is one cause, upon which the channel is shut down. -/
structure Gated (hasher : PasswordHasher) (clientKey : Octets) (options : Options)
    (address : String) (zone : Int32) (channel : Channel) : Prop where
  writes : ∃ permitted written,
    Permitted hasher clientKey options (options.clientAddress.getD address) zone channel.unread
      permitted ∧
    written <+: permitted ∧
    (connect hasher clientKey options address zone channel).2.sent = channel.sent ++ written
  opens : ∀ s opened, connect hasher clientKey options address zone channel = (.done s, opened) ↔
    Opens hasher clientKey options (options.clientAddress.getD address) zone channel s ∧
      opened = s.channel
  fails : ∀ e, (connect hasher clientKey options address zone channel).1 = .failed e →
    (∃ cause, cause.isConnectFailure = false ∧ e = .connectFailed cause) ∧
      (connect hasher clientKey options address zone channel).2.shutdowns = channel.shutdowns + 1

/-- Whatever the server sends and whatever can be written, a server is told no more than it has
passed the gates for. -/
theorem connect_gated {hasher : PasswordHasher} {clientKey : Octets} {options : Options}
    (valid : options.validate = .ok ()) (address : String) (zone : Int32) (channel : Channel) :
    Gated hasher clientKey options address zone channel where
  writes := by
    obtain ⟨permitted, gates, ⟨written, le, sent⟩, -⟩ :=
      @sends_handshake hasher clientKey options (options.clientAddress.getD address) zone channel
    exact ⟨permitted, written, gates, le, (sent_connect valid address zone channel).trans sent⟩
  opens s opened := by
    rw [connect_eq_done_iff_handshake, handshake_fresh_eq_done_iff]
    exact ⟨fun ⟨_, same, opens⟩ => ⟨opens, same⟩, fun ⟨opens, same⟩ => ⟨valid, same, opens⟩⟩
  fails e he := by
    obtain ⟨-, -, -, shut⟩ :=
      @sends_handshake hasher clientKey options (options.clientAddress.getD address) zone channel
    obtain ⟨cause, failed, rfl, shut'⟩ := connect_eq_failed valid he
    have plain := failsOnly_handshake (s := fresh options channel) rfl cause failed
    refine ⟨⟨cause, plain, Error.asConnectFailure_of_isConnectFailure plain⟩, ?_⟩
    rw [shut', shut]

/-- A guest that trusts the server is let in, and one that expects another signing key tells it no
more than its name. -/
theorem connect_gated_guest : guest.validate = .ok () ∧
    (∃ s, Opens trusting [1, 2, 3] guest "" 3600 { unread := welcome [1, 2, 3] } s) ∧
    Gated ⟨fun _ _ _ => [], fun _ _ _ key => key == [8]⟩ [1, 2, 3] guest "" 3600
      { unread := welcome [1, 2, 3] } ∧
    connect ⟨fun _ _ _ => [], fun _ _ _ key => key == [8]⟩ [1, 2, 3] guest "" 3600
        { unread := welcome [1, 2, 3] } =
      (.failed (.connectFailed .signingKeyRejected), {
        unread := Response.success 3 [.u32 0, .u32 1, .field []]
        sent := Preamble.mark ++ keyOctets [1, 2, 3] .big ++ userOctets guest [1, 2, 3] .big 0
        shutdowns := 1 }) := by
  have valid : guest.validate = .ok () := by decide +kernel
  obtain ⟨s, opened, welcomed, -⟩ := Outcome.exists_of_holds
    (x := connect trusting [1, 2, 3] guest "" 3600 { unread := welcome [1, 2, 3] })
    (p := fun _ => true) (by decide +kernel)
  refine ⟨valid, ⟨s, ?_⟩, connect_gated valid _ _ _, by decide +kernel⟩
  exact (((connect_gated valid _ _ _).opens s opened).1 welcomed).1

end Session

end SqlWire
