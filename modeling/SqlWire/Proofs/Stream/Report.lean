import Mathlib.Data.List.TakeWhile
import SqlWire.Proofs.Session.Exchange
import SqlWire.Proofs.Stream.Assembly
import SqlWire.Proofs.Wire.RoundTrip

/-!
# The report in a failed response

A response fails if any of its frames tells a failure, and then the server's report is read from its
payload (`Response.payload?_of_failing`). `Response.Writes` says which octets write a report. Of the
octets that are long enough each writes one (`Response.exists_writes`).

The payload is that of all frames together. So the report is the one in the failing frame and those
behind as long as the frames before it carry nothing. Otherwise its numbers are read from what these
carry, whatever the server says in the frame that fails (`Response.reports_joined`).
-/

namespace SqlWire.Response

open Wire

/-! ## Octets of a report -/

/-- The octets write a report : its three numbers, and a text up to a zero or to the end. -/
structure Writes (order : ByteOrder) (code line column : Int32) (text octets : Octets) : Prop where
  nonzero : ∀ octet ∈ text, octet ≠ 0
  octets_eq : ∃ tail, (tail = [] ∨ ∃ rest, tail = 0 :: rest) ∧
    octets = encode order [.i32 code, .i32 line, .i32 column, .raw text] ++ tail

variable {order : ByteOrder} {charset : Charset} {code line column : Int32} {text octets : Octets}

theorem encode_report (order : ByteOrder) (code line column : Int32) (text : Octets) :
    encode order [.i32 code, .i32 line, .i32 column, .raw text] =
      (Item.i32 code).encode order ++ ((Item.i32 line).encode order ++
        ((Item.i32 column).encode order ++ text)) := by
  simp [encode, Item.encode]

/-- A report is read from whatever writes it. -/
theorem readReport_of_writes (h : Writes order code line column text octets) (charset : Charset) :
    (readReport charset order octets).1 = .ok ⟨code, line, column, charset.decode text⟩ := by
  obtain ⟨nonzero, tail, ends, rfl⟩ := h
  have upTo : (text ++ tail).takeWhile (· != 0) = text := by
    rw [List.takeWhile_append_of_pos fun octet hoctet => by simpa using nonzero octet hoctet]
    obtain rfl | ⟨rest, rfl⟩ := ends
    · simp
    · simp
  have reads (value : Int32) :
      Reader.Reads order Reader.i32 ((Item.i32 value).encode order) value :=
    Reader.reads_i32 value
  simp only [readReport, Bind.bind, Reader.bind, encode_report, List.append_assoc, reads code _,
    reads line _, reads column _, Reader.untilZero, upTo]
  rfl

theorem Writes.reportSize_le (h : Writes order code line column text octets) :
    reportSize ≤ octets.length := by
  obtain ⟨-, tail, -, rfl⟩ := h
  simp only [encode_report, Item.encode, List.length_append, ByteOrder.length_octets, reportSize]
  omega

/-- The text of a report ends at the first zero, or with the payload. -/
theorem writes_append (code line column : Int32) (behind : Octets) :
    Writes order code line column (behind.takeWhile (· != 0))
      ((Item.i32 code).encode order ++ ((Item.i32 line).encode order ++
        ((Item.i32 column).encode order ++ behind))) where
  nonzero octet h := by simpa using List.mem_takeWhile_imp h
  octets_eq := by
    refine ⟨behind.dropWhile (· != 0), ?_, ?_⟩
    · have stop := List.head?_dropWhile_not (· != 0) behind
      cases hd : behind.dropWhile (· != 0) with
      | nil => exact Or.inl rfl
      | cons octet rest =>
        rw [hd] at stop
        have zero : octet = 0 := by simpa using stop
        exact Or.inr ⟨rest, by rw [zero]⟩
    · rw [encode_report, List.append_assoc, List.append_assoc, List.append_assoc,
        List.takeWhile_append_dropWhile]

/-- Octets that are long enough write a report. -/
theorem exists_writes (order : ByteOrder) (h : reportSize ≤ octets.length) :
    ∃ code line column text, Writes order code line column text octets := by
  simp only [reportSize] at h
  obtain ⟨code, hcode⟩ : ∃ code, (Item.i32 code).encode order = octets.take 4 :=
    exists_i32 order (List.length_take_of_le (by omega))
  obtain ⟨line, hline⟩ : ∃ line, (Item.i32 line).encode order = (octets.drop 4).take 4 :=
    exists_i32 order (List.length_take_of_le (by rw [List.length_drop]; omega))
  obtain ⟨column, hcolumn⟩ : ∃ column, (Item.i32 column).encode order =
      ((octets.drop 4).drop 4).take 4 :=
    exists_i32 order (List.length_take_of_le (by rw [List.length_drop, List.length_drop]; omega))
  have writes : Writes order code line column _ _ :=
    writes_append code line column (((octets.drop 4).drop 4).drop 4)
  rw [hcode, hline, hcolumn, List.take_append_drop, List.take_append_drop,
    List.take_append_drop] at writes
  exact ⟨code, line, column, _, writes⟩

/-! ## Responses that fail -/

variable {response : Response} {own : List Frame}

/-- The report of a response that fails is the one that its payload writes. -/
theorem payload?_of_failing (failing : response.result ≠ 0)
    (h : Writes order code line column text response.payload) (charset : Charset) :
    response.payload? order charset =
      .error (.server ⟨code, line, column, charset.decode text⟩) := by
  have enough : ¬response.payload.length < reportSize := Nat.not_lt.2 h.reportSize_le
  simp only [payload?, if_neg failing, if_neg enough, readReport_of_writes h charset]

/-- A failure with a payload that is too short for a report is malformed. -/
theorem payload?_of_short (failing : response.result ≠ 0)
    (short : response.payload.length < reportSize) (order : ByteOrder) (charset : Charset) :
    response.payload? order charset =
      .error (.malformed (.errorTooShort response.result response.payload.length)) := by
  simp only [payload?, if_neg failing, if_pos short]

/-- Which report a response that fails comes to. -/
theorem payload?_eq_server_iff (failing : response.result ≠ 0) {report : ServerReport} :
    response.payload? order charset = .error (.server report) ↔ ∃ text,
      Writes order report.code report.line report.column text response.payload ∧
        report.message = charset.decode text := by
  constructor
  · intro h
    have enough : reportSize ≤ response.payload.length := by
      refine Nat.le_of_not_lt fun short => ?_
      rw [payload?_of_short failing short] at h
      cases h
    obtain ⟨code, line, column, text, writes⟩ := exists_writes order enough
    rw [payload?_of_failing failing writes] at h
    cases h
    exact ⟨text, writes, rfl⟩
  · rintro ⟨text, writes, message⟩
    rw [payload?_of_failing failing writes, ← message]

/-- A response fails if one of its frames does. -/
theorem codeOf_ne_zero_iff : codeOf own ≠ 0 ↔ ∃ frame ∈ own, frame.header.result ≠ 0 := by
  induction own with
  | nil => simp [codeOf]
  | cons frame own ih =>
    rw [codeOf, List.exists_mem_cons_iff, ← ih]
    split
    · next none => simp [none]
    · next some => simp [some]

theorem codeOf_append_cons_ne_zero {failing : Frame} (h : failing.header.result ≠ 0)
    (before behind : List Frame) : codeOf (before ++ failing :: behind) ≠ 0 :=
  codeOf_ne_zero_iff.2 ⟨failing, List.mem_append_right _ List.mem_cons_self, h⟩

/-- What comes of a response that is made of the frames `own`. -/
structure Reports (order : ByteOrder) (charset : Charset) (own : List Frame) (response : Response) :
    Prop where
  /-- If no frame tells a failure it is a success, with the payloads together. -/
  succeeds : (∀ frame ∈ own, frame.header.result = 0) →
    response.payload? order charset = .ok (payloadOf own)
  /-- If one does it is none. -/
  fails : (∃ frame ∈ own, frame.header.result ≠ 0) →
    ∀ octets, response.payload? order charset ≠ .ok octets
  /-- The report is the one that all payloads write together. -/
  joins : (∃ frame ∈ own, frame.header.result ≠ 0) → ∀ report,
    response.payload? order charset = .error (.server report) ↔ ∃ text,
      Writes order report.code report.line report.column text (payloadOf own) ∧
        report.message = charset.decode text
  /-- Payloads that are too short together to write one are refused. -/
  refuses : (∃ frame ∈ own, frame.header.result ≠ 0) → (payloadOf own).length < reportSize →
    response.payload? order charset =
      .error (.malformed (.errorTooShort (codeOf own) (payloadOf own).length))
  /-- It is the report in the failing frame and those behind if those before it carry nothing. -/
  leads : ∀ before failing behind, own = before ++ failing :: behind →
    failing.header.result ≠ 0 → payloadOf before = [] → ∀ code line column text,
    Writes order code line column text (payloadOf (failing :: behind)) →
    response.payload? order charset =
      .error (.server ⟨code, line, column, charset.decode text⟩)
  /-- If those before it carry enough, its numbers are theirs, whatever the failing frame says. -/
  strays : ∀ before failing behind, own = before ++ failing :: behind →
    failing.header.result ≠ 0 → ∀ code line column text,
    Writes order code line column text (payloadOf before) → ∃ message,
    response.payload? order charset = .error (.server ⟨code, line, column, message⟩)

/-- Only the first report counts of octets that go on behind one. -/
theorem Writes.append (h : Writes order code line column text octets) (behind : Octets) :
    ∃ text', Writes order code line column text' (octets ++ behind) := by
  obtain ⟨-, tail, -, rfl⟩ := h
  have writes : Writes order code line column _ _ :=
    writes_append code line column (text ++ (tail ++ behind))
  simp only [encode_report, List.append_assoc]
  exact ⟨_, writes⟩

/-- Every response does so, whatever frames it is made of. -/
theorem reports_ofFrames (order : ByteOrder) (charset : Charset) (own : List Frame) :
    Reports order charset own (.ofFrames own) where
  succeeds none := by
    have code : codeOf own = 0 := by
      by_contra some
      obtain ⟨frame, hframe, failing⟩ := codeOf_ne_zero_iff.1 some
      exact failing (none frame hframe)
    simp only [payload?, ofFrames, code, if_true]
  fails some octets h := by
    have failing : (ofFrames own).result ≠ 0 := codeOf_ne_zero_iff.2 some
    exact failing (payload?_eq_ok_iff.1 h).1
  joins some report := payload?_eq_server_iff (codeOf_ne_zero_iff.2 some)
  refuses some short := payload?_of_short (codeOf_ne_zero_iff.2 some) short order charset
  leads before failing behind split nonzero none code line column text writes := by
    subst split
    have some := codeOf_append_cons_ne_zero nonzero before behind
    have joined : Writes order code line column text (payloadOf (before ++ failing :: behind)) := by
      rw [payloadOf_append, none, List.nil_append]
      exact writes
    exact payload?_of_failing some joined charset
  strays before failing behind split nonzero code line column text writes := by
    subst split
    have some := codeOf_append_cons_ne_zero nonzero before behind
    obtain ⟨text', joined⟩ := writes.append (payloadOf (failing :: behind))
    rw [← payloadOf_append] at joined
    exact ⟨_, payload?_of_failing some joined charset⟩

/-- Of what is assembled for a request, its frames up to the last tell what it comes to. -/
theorem reports_joined {seq : UInt32} {limit : Nat} {frames : List Frame} {push : Assembler.Push}
    (h : push ∈ Assembler.trace { seq := seq, limit := limit } frames)
    (complete : push.step = .ok (.complete response)) (order : ByteOrder) (charset : Charset) :
    Reports order charset ((Response.own seq frames).take (lastPlace (Response.own seq frames) + 1))
      response := by
  rw [Assembler.eq_ofFrames_of_complete h complete]
  exact reports_ofFrames order charset _

/-- The failing frame says that a snapshot is too old, and the frame before it is read for that. -/
theorem reports_joined_early :
    let header : Header := ⟨16, 0, 0, (3, 0, 0), 7⟩
    let early : Frame := ⟨header.withMore, [0, 0, 0, 1, 0, 0, 0, 2, 0, 0, 0, 3, 72, 105, 0]⟩
    let failing : Frame := ⟨{ header with result := 6 },
      [0, 0, 6, 19, 0, 0, 0, 0, 0, 0, 0, 0, 111, 108, 100, 0]⟩
    let response : Response := ⟨header.withMore, 6, early.payload ++ failing.payload, 2⟩
    (Assembler.trace { seq := 7, limit := 64 } [early, failing]).map Assembler.Push.step =
        [.ok .partway, .ok (.complete response)] ∧
      Reports .big .utf8 [early, failing] response ∧
      Writes .big 1555 0 0 [111, 108, 100] failing.payload ∧
      response.payload? .big .utf8 = .error (.server ⟨1, 2, 3, "Hi"⟩) := by
  intro header early failing response
  have steps : (Assembler.trace { seq := 7, limit := 64 } [early, failing]).map
      Assembler.Push.step = [.ok .partway, .ok (.complete response)] := by decide
  have assembled : .ok (.complete response) ∈
      (Assembler.trace { seq := 7, limit := 64 } [early, failing]).map Assembler.Push.step := by
    rw [steps]
    exact List.mem_cons_of_mem _ (List.mem_singleton_self _)
  obtain ⟨push, hpush, complete⟩ := List.mem_map.1 assembled
  have reported := reports_joined hpush complete .big .utf8
  have whole : (Response.own 7 [early, failing]).take
      (lastPlace (Response.own 7 [early, failing]) + 1) = [early, failing] := by decide
  rw [whole] at reported
  exact ⟨steps, reported, ⟨by simp, [0], Or.inr ⟨[], rfl⟩, by decide⟩, by decide +kernel⟩

end SqlWire.Response
