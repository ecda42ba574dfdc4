import SqlWire.Proofs.Wire.RoundTrip
import SqlWire.Reply
import SqlWire.Request

/-!
# What a server reads of a request

`Arguments.read` reads the payload of a request field by field, as its command lays it out. It gives
the arguments as they were encoded (`Request.reads_payload`) : texts in the charset of the session,
an absent tenant as an empty one, and the address of the client in UTF-8 whatever the charset.

Since every field tells its own length, no octet of one argument can be taken for one of another :
payloads of the same command are equal only for equal arguments, also with other octets behind them
(`Request.payload_determines`).
-/

namespace SqlWire

open Wire Reader

/-- The arguments of a request as they are encoded. -/
inductive Arguments where
  | handshake (clientKey : Octets)
  | authInit (user clientKey tenant : Octets)
  | login (user passwordHash clientAddress : Octets) (zoneOffset : Int32) (tenant : Octets)
      (flags : UInt32)
  | execute (handle : Int32) (describe : Bool) (fetchSize : UInt32) (query : Octets)
  | fetch (handle : Int32) (fetchSize : UInt32)
  | freeStatement (handle : Int32)
  /-- The command alone says it all. -/
  | none
  deriving DecidableEq

namespace Arguments

/-- Read what stands behind a command. -/
def read : Command → Reader Arguments
  | .handshake => do
    let clientKey ← field
    return handshake clientKey
  | .authInit => do
    let user ← field
    let clientKey ← field
    let tenant ← field
    return authInit user clientKey tenant
  | .login => do
    let user ← field
    let passwordHash ← field
    let clientAddress ← field
    let zoneOffset ← i32
    let tenant ← field
    let flags ← u32
    return login user passwordHash clientAddress zoneOffset tenant flags
  | .execute => do
    let handle ← i32
    let flags ← u32
    let fetchSize ← u32
    let query ← field
    return execute handle (isSet flags Request.describeFlag) fetchSize query
  | .fetch => do
    let handle ← i32
    let fetchSize ← u32
    return fetch handle fetchSize
  | .freeStatement => do
    let handle ← i32
    return freeStatement handle
  | .logout | .commit | .rollback | .ping => return none

/-- The arguments that stand in fields. -/
def fields : Arguments → List Octets
  | handshake clientKey => [clientKey]
  | authInit user clientKey tenant => [user, clientKey, tenant]
  | login user passwordHash clientAddress _ tenant _ => [user, passwordHash, clientAddress, tenant]
  | execute _ _ _ query => [query]
  | fetch .. | freeStatement _ | none => []

/-- The length of every field stands for itself. -/
def Storable (arguments : Arguments) : Prop :=
  ∀ octets ∈ arguments.fields, octets.length < nullLength.toNat

instance (arguments : Arguments) : Decidable arguments.Storable :=
  inferInstanceAs (Decidable (∀ octets ∈ arguments.fields, octets.length < nullLength.toNat))

/-- The arguments in the order of their fields. -/
def items : Arguments → List Item
  | handshake clientKey => [.field clientKey]
  | authInit user clientKey tenant => [.field user, .field clientKey, .field tenant]
  | login user passwordHash clientAddress zoneOffset tenant flags =>
    [.field user, .field passwordHash, .field clientAddress, .i32 zoneOffset, .field tenant,
      .u32 flags]
  | execute handle describe fetchSize query =>
    [.i32 handle, .u32 (if describe then Request.describeFlag else 0), .u32 fetchSize,
      .field query]
  | fetch handle fetchSize => [.i32 handle, .u32 fetchSize]
  | freeStatement handle => [.i32 handle]
  | none => []

end Arguments

namespace Request

variable {order : ByteOrder} {charset charset' : Charset} {request request' : Request}

/-- The arguments of a request as they are encoded. An absent tenant is an empty one. -/
def arguments (charset : Charset) : Request → Arguments
  | handshake clientKey => .handshake clientKey
  | authInit user clientKey tenant =>
    .authInit (charset.encode user) clientKey (tenant.elim [] charset.encode)
  | login user passwordHash clientAddress zoneOffset tenant flags =>
    .login (charset.encode user) passwordHash (Utf8.encode clientAddress) zoneOffset
      (tenant.elim [] charset.encode) flags
  | execute handle describe fetchSize query =>
    .execute handle describe fetchSize (charset.encode query)
  | fetch handle fetchSize => .fetch handle fetchSize
  | freeStatement handle => .freeStatement handle
  | logout | commit | rollback | ping => .none

/-- An absent tenant is written as an empty text. -/
theorem encode_getD (charset : Charset) (tenant : Option String) :
    charset.encode (tenant.getD "") = tenant.elim [] charset.encode := by
  cases tenant with
  | some tenant => rfl
  | none => cases charset <;> rfl

/-- The layout of a request is that of its arguments. -/
theorem items_eq (charset : Charset) (request : Request) :
    request.items charset = (request.arguments charset).items := by
  cases request with
  | authInit user clientKey tenant => simp only [items, arguments, Arguments.items, encode_getD]
  | login user passwordHash clientAddress zoneOffset tenant flags =>
    simp only [items, arguments, Arguments.items, encode_getD]
  | _ => rfl

/-- The flag for describing is read back as it was set. -/
theorem isSet_describe (describe : Bool) :
    isSet (if describe then describeFlag else 0) describeFlag = describe := by
  cases describe <;> decide

/-- A payload is read as the arguments that were encoded. -/
theorem reads_payload (order : ByteOrder) (h : (request.arguments charset).Storable) :
    Reads order (Arguments.read request.command) (request.payload order charset)
      (request.arguments charset) := by
  rw [payload, items_eq]
  cases request with
  | handshake clientKey =>
    simp only [arguments, Arguments.items, encode_cons, encode_nil]
    simp only [arguments, Arguments.Storable, Arguments.fields, List.forall_mem_cons] at h
    exact (reads_field h.1).bind (.pure _)
  | authInit user clientKey tenant =>
    simp only [arguments, Arguments.items, encode_cons, encode_nil]
    simp only [arguments, Arguments.Storable, Arguments.fields, List.forall_mem_cons] at h
    obtain ⟨user, clientKey, tenant, -⟩ := h
    exact (reads_field user).bind <| (reads_field clientKey).bind <| (reads_field tenant).bind <|
      .pure _
  | login user passwordHash clientAddress zoneOffset tenant flags =>
    simp only [arguments, Arguments.items, encode_cons, encode_nil]
    simp only [arguments, Arguments.Storable, Arguments.fields, List.forall_mem_cons] at h
    obtain ⟨user, passwordHash, clientAddress, tenant, -⟩ := h
    exact (reads_field user).bind <| (reads_field passwordHash).bind <|
      (reads_field clientAddress).bind <| (reads_i32 _).bind <| (reads_field tenant).bind <|
      (reads_u32 _).bind <| .pure _
  | execute handle describe fetchSize query =>
    simp only [arguments, Arguments.items, encode_cons, encode_nil]
    simp only [arguments, Arguments.Storable, Arguments.fields, List.forall_mem_cons] at h
    refine (reads_i32 _).bind <| (reads_u32 _).bind ?_
    rw [isSet_describe]
    exact (reads_u32 _).bind <| (reads_field h.1).bind <| .pure _
  | fetch handle fetchSize =>
    exact (reads_i32 _).bind <| (reads_u32 _).bind <| .pure _
  | freeStatement handle => exact (reads_i32 _).bind <| .pure _
  | _ => exact .pure _

/-- The payload is that of the arguments as they are encoded. -/
theorem payload_congr (same : request.arguments charset = request'.arguments charset') :
    request.payload order charset = request'.payload order charset' := by
  rw [payload, payload, items_eq, items_eq, same]

/-- No octet of an argument can be taken for one of another argument, or of what stands behind. -/
theorem payload_append_eq_iff (h : (request.arguments charset).Storable)
    (h' : (request'.arguments charset').Storable) (command : request.command = request'.command)
    (rest rest' : Octets) :
    request.payload order charset ++ rest = request'.payload order charset' ++ rest' ↔
      request.arguments charset = request'.arguments charset' ∧ rest = rest' := by
  constructor
  · intro same
    have read := reads_payload order h rest
    have read' := reads_payload order h' rest'
    rw [same, command, read'] at read
    obtain ⟨value, left⟩ := Prod.mk.inj read
    exact ⟨(Except.ok.inj value).symm, left.symm⟩
  · rintro ⟨same, rfl⟩
    rw [payload_congr same]

/-- A payload is read as the arguments of its request to the last octet, and two payloads for one
command are equal exactly if all arguments are. -/
theorem payload_determines (order : ByteOrder) (charset : Charset) (request : Request)
    (h : (request.arguments charset).Storable) :
    Arguments.read request.command order (request.payload order charset) =
      (.ok (request.arguments charset), []) ∧
    ∀ (charset' : Charset) (request' : Request), (request'.arguments charset').Storable →
      request.command = request'.command → ∀ rest rest' : Octets,
        request.payload order charset ++ rest = request'.payload order charset' ++ rest' ↔
          request.arguments charset = request'.arguments charset' ∧ rest = rest' := by
  refine ⟨?_, fun charset' request' h' command rest rest' =>
    payload_append_eq_iff h h' command rest rest'⟩
  have read := reads_payload order h []
  rwa [List.append_nil] at read

/-- An octet that goes from the key to the user changes the payload, whatever follows it. -/
theorem payload_determines_shifted :
    let request := Request.authInit "ab" [99, 0] none
    let shifted := Request.authInit "a" [98, 99, 0] none
    (request.arguments .gbk).Storable ∧ (shifted.arguments .gbk).Storable ∧
      Arguments.read .authInit .little (request.payload .little .gbk) =
        (.ok (.authInit [97, 98] [99, 0] []), []) ∧
      ∀ rest rest',
        request.payload .little .gbk ++ rest ≠ shifted.payload .little .gbk ++ rest' := by
  intro request shifted
  have storable : (request.arguments .gbk).Storable := by decide +kernel
  have storable' : (shifted.arguments .gbk).Storable := by decide +kernel
  obtain ⟨read, eq_iff⟩ := payload_determines .little .gbk request storable
  have differ : request.arguments .gbk ≠ shifted.arguments .gbk := by decide +kernel
  exact ⟨storable, storable', read, fun rest rest' same =>
    differ ((eq_iff .gbk shifted storable' rfl rest rest').1 same).1⟩

/-- The address of the client is not read in the charset of the session. -/
theorem read_login_address :
    let request := Request.login "app" [1, 2] "€" 0 none 3
    (request.arguments .gbk).Storable ∧
      ∀ user passwordHash zoneOffset tenant flags left,
        Arguments.read .login .big (request.payload .big .gbk) ≠
          (.ok (.login user passwordHash (Charset.gbk.encode "€") zoneOffset tenant flags),
            left) := by
  intro request
  have storable : (request.arguments .gbk).Storable := by decide +kernel
  have read := reads_payload .big storable []
  have differ : Utf8.encode "€" ≠ Charset.gbk.encode "€" := by decide +kernel
  refine ⟨storable, fun user passwordHash zoneOffset tenant flags left same => differ ?_⟩
  rw [List.append_nil] at read
  obtain ⟨arguments, -⟩ := Prod.mk.inj (read.symm.trans same)
  exact (Arguments.login.inj (Except.ok.inj arguments)).2.2.1

end Request

end SqlWire
