import SleepySession.Lib.Checks
import SleepySession.Supervisor.Capture

/-!
# Agreement of the two ends

Responses round-trip without exception, and they fit in what the parent reads.
Requests are written up to the largest length that four bytes can hold, but read
only up to one mebibyte.
-/

namespace SleepySession
namespace Supervisor

section Requests

variable {sdk : RequestSdk} {request : SupervisorRequest} {bytes rest : List UInt8}
variable {sent : Except String Unit}

theorem ok_bind {ε α β : Type} (a : α) (f : α → Except ε β) : (Except.ok a >>= f) = f a :=
  rfl

theorem readExact_append {count : Nat} (h : bytes.length = count) :
    readExact count (bytes ++ rest) = .ok (bytes, rest) := by
  subst h
  simp [readExact]

theorem writeSupervisorRequest_eq_ok :
    writeSupervisorRequest sdk sent request = .ok bytes ↔
      (sdk.encode request).length < UInt32.size ∧ sent = .ok () ∧
        bytes = u32Bytes (.ofNat (sdk.encode request).length) ++ sdk.encode request := by
  unfold writeSupervisorRequest
  by_cases hlength : (sdk.encode request).length < UInt32.size
  · cases sent with
    | ok _ => simp [hlength, eq_comm]
    | error e => simp [hlength]
  · simp [hlength]

/-- What the reader makes of a message, up to the text of the request. -/
theorem readSupervisorRequest_message (hlength : (sdk.encode request).length < UInt32.size) :
    readSupervisorRequest sdk
        (u32Bytes (.ofNat (sdk.encode request).length) ++ sdk.encode request ++ rest) =
      if (sdk.encode request).length > supervisorRequestLimit then
        .error ⟨.invalidData, "command supervisor request exceeded its bounded limit"⟩
      else
        match sdk.decode (sdk.encode request) with
        | .ok request => .ok (request, rest)
        | .error error => .error ⟨.invalidData, error⟩ := by
  have hnat : (UInt32.ofNat (sdk.encode request).length).toNat = (sdk.encode request).length :=
    UInt32.toNat_ofNat_of_lt' hlength
  unfold readSupervisorRequest
  rw [List.append_assoc, readExact_append (length_u32Bytes _)]
  simp only [ok_bind, u32OfBytes_u32Bytes, hnat]
  rw [readExact_append rfl]
  rfl

end Requests

section Responses

variable {response : SupervisorResponse} {bytes : List UInt8} {limit : Nat}

theorem writeSupervisorResponse_eq_ok :
    writeSupervisorResponse response = .ok bytes ↔
      response.stdout.length < UInt32.size ∧ response.stderr.length < UInt32.size ∧
        bytes = responseBytes response := by
  unfold writeSupervisorResponse
  by_cases hout : response.stdout.length < UInt32.size
  · by_cases herr : response.stderr.length < UInt32.size
    · simp [hout, herr, eq_comm]
    · simp [hout, herr]
  · simp [hout]

theorem length_responseBytes :
    (responseBytes response).length =
      supervisorResultHeader + response.stdout.length + response.stderr.length := by
  simp only [responseBytes, supervisorMagic, List.length_append, List.length_cons,
    List.length_nil, length_u32Bytes, supervisorResultHeader]
  omega

/-- The fields of a response stand at fixed positions. -/
theorem fields_of_layout {tag : UInt8} {status stdout stderr outputs : List UInt8}
    (hstatus : status.length = 4) (hstdout : stdout.length = 4) (hstderr : stderr.length = 4)
    (h : bytes = supervisorMagic ++ tag :: (status ++ (stdout ++ (stderr ++ outputs)))) :
    bytes.take 8 = supervisorMagic ∧ bytes.getD 8 0 = tag ∧
      (bytes.drop 9).take 4 = status ∧ (bytes.drop 13).take 4 = stdout ∧
      (bytes.drop 17).take 4 = stderr ∧ bytes.drop supervisorResultHeader = outputs := by
  obtain ⟨s₀, s₁, s₂, s₃, rfl⟩ := List.length_eq_four.mp hstatus
  obtain ⟨o₀, o₁, o₂, o₃, rfl⟩ := List.length_eq_four.mp hstdout
  obtain ⟨e₀, e₁, e₂, e₃, rfl⟩ := List.length_eq_four.mp hstderr
  subst h
  exact ⟨rfl, rfl, rfl, rfl, rfl, rfl⟩

/-- Every text of that length is its fields, one after the other. -/
theorem layout_of_fields (hlength : supervisorResultHeader ≤ bytes.length) :
    bytes = bytes.take 8 ++ bytes.getD 8 0 :: ((bytes.drop 9).take 4 ++
      ((bytes.drop 13).take 4 ++ ((bytes.drop 17).take 4 ++
        bytes.drop supervisorResultHeader))) := by
  have hsplit : ∀ n, bytes.drop n = (bytes.drop n).take 4 ++ bytes.drop (n + 4) := by
    intro n
    rw [← List.drop_drop, List.take_append_drop]
  have h9 : bytes.drop 9 = (bytes.drop 9).take 4 ++ bytes.drop 13 := hsplit 9
  have h13 : bytes.drop 13 = (bytes.drop 13).take 4 ++ bytes.drop 17 := hsplit 13
  have h17 : bytes.drop 17 = (bytes.drop 17).take 4 ++ bytes.drop supervisorResultHeader :=
    hsplit 17
  have htag : bytes.drop 8 = bytes.getD 8 0 :: bytes.drop 9 := by
    have h8 : 8 < bytes.length := Nat.lt_of_lt_of_le (by decide) hlength
    rw [List.drop_eq_getElem_cons h8, List.getD_eq_getElem?_getD, List.getElem?_eq_getElem h8]
    rfl
  calc bytes = bytes.take 8 ++ bytes.drop 8 := (List.take_append_drop 8 bytes).symm
    _ = bytes.take 8 ++ bytes.getD 8 0 :: bytes.drop 9 := by rw [htag]
    _ = _ := by conv_lhs => rw [h9, h13, h17]

/-- A response that was written is parsed as it was. -/
theorem parse_responseBytes
    (hout : response.stdout.length < UInt32.size)
    (herr : response.stderr.length < UInt32.size) :
    parseSupervisorResponse (responseBytes response) = .ok response := by
  have hlength := @length_responseBytes response
  obtain ⟨hmagic, htag, hstatus, hstdout, hstderr, houtputs⟩ :=
    fields_of_layout (length_u32Bytes _) (length_u32Bytes _) (length_u32Bytes _)
      (rfl : responseBytes response = _)
  have hout' : (UInt32.ofNat response.stdout.length).toNat = response.stdout.length :=
    UInt32.toNat_ofNat_of_lt' hout
  have herr' : (UInt32.ofNat response.stderr.length).toNat = response.stderr.length :=
    UInt32.toNat_ofNat_of_lt' herr
  have hexpected : saturatingAdd (saturatingAdd supervisorResultHeader response.stdout.length)
      response.stderr.length =
        supervisorResultHeader + response.stdout.length + response.stderr.length := by
    simp only [saturatingAdd, supervisorResultHeader, UInt32.size, u64Max, UInt64.size] at *
    omega
  unfold parseSupervisorResponse
  simp only [hmagic, htag, hstatus, hstdout, hstderr, u32OfBytes_u32Bytes, hout', herr',
    hexpected, hlength, ne_eq, not_true_eq_false, or_false, if_false]
  rw [if_neg (by omega), ← List.drop_drop, houtputs]
  simp

/-- Whatever is parsed is what would be written for it. -/
theorem write_of_parse (h : parseSupervisorResponse bytes = .ok response) :
    writeSupervisorResponse response = .ok bytes := by
  unfold parseSupervisorResponse at h
  split at h
  · cases h
  rename_i hheader
  rw [not_or, not_lt, not_not] at hheader
  obtain ⟨hlength, hmagic⟩ := hheader
  simp only at h
  split at h
  · cases h
  rename_i hsize
  cases h
  have hfield : ∀ n, n + 4 ≤ supervisorResultHeader → ((bytes.drop n).take 4).length = 4 := by
    intro n hn
    rw [List.length_take, List.length_drop]
    omega
  have hout := (u32OfBytes ((bytes.drop 13).take 4)).toNat_lt
  have herr := (u32OfBytes ((bytes.drop 17).take 4)).toNat_lt
  have hbytes : bytes.length = supervisorResultHeader +
      (u32OfBytes ((bytes.drop 13).take 4)).toNat +
        (u32OfBytes ((bytes.drop 17).take 4)).toNat := by
    rw [not_not.mp hsize]
    simp only [saturatingAdd, supervisorResultHeader, u64Max, UInt64.size]
    omega
  have hstdout : ((bytes.drop supervisorResultHeader).take
      (u32OfBytes ((bytes.drop 13).take 4)).toNat).length =
        (u32OfBytes ((bytes.drop 13).take 4)).toNat := by
    rw [List.length_take, List.length_drop]
    omega
  have hstderr : (bytes.drop (supervisorResultHeader +
      (u32OfBytes ((bytes.drop 13).take 4)).toNat)).length =
        (u32OfBytes ((bytes.drop 17).take 4)).toNat := by
    rw [List.length_drop]
    omega
  refine writeSupervisorResponse_eq_ok.mpr ⟨?_, ?_, ?_⟩
  · rw [hstdout]
    exact hout
  · rw [hstderr]
    exact herr
  · unfold responseBytes
    rw [hstdout, hstderr, UInt32.ofNat_toNat, UInt32.ofNat_toNat,
      u32Bytes_u32OfBytes (hfield 9 (by decide)), u32Bytes_u32OfBytes (hfield 13 (by decide)),
      u32Bytes_u32OfBytes (hfield 17 (by decide)), ← List.drop_drop, List.take_append_drop,
      ← hmagic]
    exact layout_of_fields hlength

/-- The parent's limit is enough for a response within the limit of the outputs. -/
theorem length_le_responseLimit {maxOutputBytes : UInt64}
    (hcarries : Carries maxOutputBytes.toNat response)
    (h : writeSupervisorResponse response = .ok bytes) :
    bytes.length ≤ supervisorResponseLimit maxOutputBytes := by
  obtain ⟨hout, herr, rfl⟩ := writeSupervisorResponse_eq_ok.mp h
  obtain ⟨hout', herr'⟩ := hcarries
  rw [length_responseBytes]
  simp only [supervisorResponseLimit, saturatingAdd, saturatingMul, supervisorResultHeader,
    UInt32.size, u64Max, UInt64.size] at *
  omega

/-- The parent reads all of a text within its limit, however the pipe cuts it. -/
theorem readSupervisorResponseBytes_eq_ok {chunks : List (List UInt8)}
    (h : bytes.length + chunks.flatten.length ≤ limit) :
    readSupervisorResponseBytes limit bytes chunks = .ok (bytes ++ chunks.flatten) := by
  induction chunks generalizing bytes with
  | nil => simp [readSupervisorResponseBytes]
  | cons chunk chunks ih =>
      simp only [List.flatten_cons, List.length_append] at h
      have hsum : ¬ saturatingAdd bytes.length chunk.length > limit :=
        Nat.not_lt.mpr (saturatingAdd_le_add.trans (by omega))
      rw [readSupervisorResponseBytes, if_neg hsum, ih (by simp only [List.length_append]; omega),
        List.flatten_cons, List.append_assoc]

end Responses

section Agreement

/-- The two ends agree on the request of a command and on every response. -/
structure ProtocolAgrees (sdk : RequestSdk) (spec : CommandSpec) (timeout : Nat) : Prop where
  /-- A request that is written is read as it was, whatever follows it. -/
  request : ∀ sent bytes rest,
    writeSupervisorRequest sdk sent (.new spec timeout) = .ok bytes →
      readSupervisorRequest sdk (bytes ++ rest) = .ok (.new spec timeout, rest)
  response : ∀ response bytes, writeSupervisorResponse response = .ok bytes →
    parseSupervisorResponse bytes = .ok response
  rejected : ∀ bytes, (∀ response, writeSupervisorResponse response ≠ .ok bytes) →
    ∃ e, parseSupervisorResponse bytes = .error e
  /-- What the supervisor answers fits in what the parent reads. -/
  limit : ∀ start rounds closing response bytes,
    superviseCommand (.new spec timeout) start rounds closing = some response →
    writeSupervisorResponse response = .ok bytes →
      bytes.length ≤ supervisorResponseLimit spec.maxOutputBytes ∧
        ∀ chunks : List (List UInt8), chunks.flatten = bytes →
          readSupervisorResponseBytes (supervisorResponseLimit spec.maxOutputBytes) [] chunks =
            .ok bytes

theorem request_agrees_iff {sdk : RequestSdk} {request : SupervisorRequest}
    (hround : sdk.decode (sdk.encode request) = .ok request) :
    (∀ sent bytes rest, writeSupervisorRequest sdk sent request = .ok bytes →
      readSupervisorRequest sdk (bytes ++ rest) = .ok (request, rest)) ↔
    (sdk.encode request).length ≤ supervisorRequestLimit ∨
      UInt32.size ≤ (sdk.encode request).length := by
  constructor
  · intro h
    by_contra hlength
    rw [not_or, not_le, not_le] at hlength
    have hwritten := writeSupervisorRequest_eq_ok.mpr ⟨hlength.2, rfl, rfl⟩
    have hread := h (.ok ()) _ [] hwritten
    rw [readSupervisorRequest_message hlength.2, if_pos hlength.1] at hread
    cases hread
  · intro h sent bytes rest hwritten
    obtain ⟨hlength, -, rfl⟩ := writeSupervisorRequest_eq_ok.mp hwritten
    have hlimit : ¬ (sdk.encode request).length > supervisorRequestLimit :=
      Nat.not_lt.mpr (h.resolve_right (Nat.not_le.mpr hlength))
    rw [readSupervisorRequest_message hlength, if_neg hlimit, hround]

/-- The two ends agree unless a request is written that is too long for the reader. -/
theorem protocol_agrees_iff (sdk : RequestSdk) (spec : CommandSpec) (timeout : Nat)
    (hround : sdk.decode (sdk.encode (.new spec timeout)) = .ok (.new spec timeout)) :
    ProtocolAgrees sdk spec timeout ↔
      (sdk.encode (.new spec timeout)).length ≤ supervisorRequestLimit ∨
        UInt32.size ≤ (sdk.encode (.new spec timeout)).length := by
  refine ⟨fun h => (request_agrees_iff hround).mp h.request, fun h => ?_⟩
  refine ⟨(request_agrees_iff hround).mpr h, ?_, ?_, ?_⟩
  · intro response bytes hwritten
    obtain ⟨hout, herr, rfl⟩ := writeSupervisorResponse_eq_ok.mp hwritten
    exact parse_responseBytes hout herr
  · intro bytes hother
    cases hparsed : parseSupervisorResponse bytes with
    | error e => exact ⟨e, rfl⟩
    | ok response => exact absurd (write_of_parse hparsed) (hother response)
  · intro start rounds closing response bytes hresponse hwritten
    have hlimit := length_le_responseLimit (carries_superviseCommand hresponse) hwritten
    refine ⟨hlimit, ?_⟩
    rintro chunks rfl
    have hchunks : ([] : List UInt8).length + chunks.flatten.length ≤
        supervisorResponseLimit spec.maxOutputBytes := by
      rw [List.length_nil, Nat.zero_add]
      exact hlimit
    rw [readSupervisorResponseBytes_eq_ok hchunks, List.nil_append]

end Agreement

section Sample

def jsonText (text : Text) : Text :=
  '"' :: text ++ ['"']

def jsonList (items : List Text) : Text :=
  '[' :: (items.intersperse [',']).flatten ++ [']']

def beforeArgs (request : SupervisorRequest) : Text :=
  "\x7b\"program\":".toList ++ jsonText request.program ++ ",\"args\":".toList

def afterArgs (request : SupervisorRequest) : Text :=
  ",\"env\":".toList ++
    jsonList (request.env.map fun entry => jsonList [jsonText entry.1, jsonText entry.2]) ++
    ",\"timeout_millis\":".toList ++ Nat.toDigits 10 request.timeoutMillis.toNat ++
    ",\"max_output_bytes\":".toList ++ Nat.toDigits 10 request.maxOutputBytes.toNat ++
    "\x7d".toList

/-- The JSON text of a request whose texts are printable ASCII without escapes. -/
def requestJson (request : SupervisorRequest) : List UInt8 :=
  (beforeArgs request ++ jsonList (request.args.map jsonText) ++ afterArgs request).map
    fun c => .ofNat c.toNat

/-- `serde_json` as far as one request is concerned. -/
def sampleSdk (request : SupervisorRequest) : RequestSdk where
  encode := requestJson
  decode bytes :=
    if bytes = requestJson request then .ok request else .error "expected value"

theorem sampleSdk_decode (request : SupervisorRequest) :
    (sampleSdk request).decode ((sampleSdk request).encode request) = .ok request :=
  if_pos rfl

def sampleSpec (argument : Text) : CommandSpec :=
  ⟨"niri".toList, [argument], [("LC_ALL".toList, "C".toList)], 900 * 10 ^ 6, 65536⟩

def sampleRequest (argument : Text) : SupervisorRequest :=
  .new (sampleSpec argument) (900 * 10 ^ 6)

theorem protocol_agrees_small :
    ProtocolAgrees (sampleSdk (sampleRequest "validate".toList))
        (sampleSpec "validate".toList) (900 * 10 ^ 6) ↔
      (requestJson (sampleRequest "validate".toList)).length ≤ supervisorRequestLimit ∨
        UInt32.size ≤ (requestJson (sampleRequest "validate".toList)).length :=
  protocol_agrees_iff (sampleSdk (sampleRequest "validate".toList))
    (sampleSpec "validate".toList) (900 * 10 ^ 6) (sampleSdk_decode _)

theorem length_sampleRequest (argument : Text) :
    (requestJson (sampleRequest argument)).length = argument.length + 99 := by
  have hbefore : (beforeArgs (sampleRequest argument)).length = 25 := rfl
  have hafter : (afterArgs (sampleRequest argument)).length = 70 := by
    show (afterArgs (sampleRequest [])).length = 70
    decide
  have hargs : (jsonList ((sampleRequest argument).args.map jsonText)).length =
      argument.length + 4 := by
    show (jsonList [jsonText argument]).length = argument.length + 4
    simp [jsonList, jsonText]
  rw [requestJson, List.length_map, List.length_append, List.length_append, hbefore, hafter, hargs]
  omega

theorem long_argument_rejected {argument : Text}
    (hlong : supervisorRequestLimit ≤ argument.length)
    (hshort : argument.length < 2 ^ 31) :
    ¬ ProtocolAgrees (sampleSdk (sampleRequest argument)) (sampleSpec argument) (900 * 10 ^ 6) := by
  intro h
  have hlength : (requestJson (sampleRequest argument)).length ≤ supervisorRequestLimit ∨
      UInt32.size ≤ (requestJson (sampleRequest argument)).length :=
    (request_agrees_iff (sampleSdk_decode (sampleRequest argument))).mp h.request
  rw [length_sampleRequest] at hlength
  simp only [UInt32.size] at hlength
  omega

/-- The request of a command with an argument of one mebibyte is written but not read. -/
theorem large_request_rejected :
    ¬ ProtocolAgrees (sampleSdk (sampleRequest (List.replicate supervisorRequestLimit 'a')))
      (sampleSpec (List.replicate supervisorRequestLimit 'a')) (900 * 10 ^ 6) := by
  refine long_argument_rejected ?_ ?_
  · rw [List.length_replicate]
  · rw [List.length_replicate]
    decide

end Sample

end Supervisor
end SleepySession
