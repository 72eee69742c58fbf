import Phrasebook.Grpc.Client
import Phrasebook.Proofs.Grpc.Messages
/-!
# A call over the wire is the call itself

A client frames a message and sends it to a method; the server reads it, makes the call and sends back a
framed message or a status; the client reads that. If the messages fit, all this makes no difference: the
client has the result that the method itself would have given, and the desk has been asked once, with the
query that the client was given.

The parts are the frame (`readAll_wrap`), the status in headers, whose message is percent encoded
(`ofHeaders?_headers`), and the answer (`readResponse_answer`). The lead result is `Channel.call_over_wire`.
-/

set_option autoImplicit false

namespace Phrasebook

/-! ## Percent encoding -/

namespace Text.Percent

/-- A digit of an escape is read as its value. -/
theorem byteValue?_digit {n : Nat} (h : n < 16) : Hex.byteValue? (digit n) = some n := by
  have hall : ∀ n < 16, Hex.byteValue? (digit n) = some n := by decide
  exact hall n h

/-- An escaped byte is decoded to itself. -/
theorem decode_escape (c : UInt8) (rest : Bytes) : decode (escape c ++ rest) = c :: decode rest := by
  have hc : c.toNat < 256 := c.toNat_lt
  have hhigh : Hex.byteValue? (digit (c.toNat / 16)) = some (c.toNat / 16) := byteValue?_digit (by omega)
  have hlow : Hex.byteValue? (digit (c.toNat % 16)) = some (c.toNat % 16) := byteValue?_digit (by omega)
  have hwhole : c.toNat / 16 * 16 + c.toNat % 16 = c.toNat := by omega
  simp only [escape, List.cons_append, List.nil_append]
  rw [decode, hhigh, hlow]
  simp only [hwhole, Nat.toUInt8, UInt8.ofNat_toNat]

/-- So is a byte that is no percent sign. -/
theorem decode_plain {c : UInt8} (h : c ≠ 0x25) (rest : Bytes) : decode (c :: rest) = c :: decode rest := by
  rw [decode]
  intro a b rest' hc
  exact absurd hc h

/-- **What is encoded is decoded again**, if the percent sign is always escaped. -/
theorem decode_encode {plain : UInt8 → Bool} (h : plain 0x25 = false) (b : Bytes) :
    decode (encode plain b) = b := by
  induction b with
  | nil => rw [encode, List.flatMap_nil, decode]
  | cons c b ih =>
    rw [encode, List.flatMap_cons]
    split
    · rename_i hplain
      have hc : c ≠ 0x25 := by
        rintro rfl
        rw [h] at hplain
        cases hplain
      rw [List.singleton_append, decode_plain hc]
      exact congrArg (c :: ·) ih
    · rw [decode_escape]
      exact congrArg (c :: ·) ih

end Text.Percent

namespace Grpc

/-! ## Statuses -/

namespace Status

/-- **The message of a status is read back**, whatever characters it has. -/
theorem decodeMessage?_encodeMessage (s : String) : decodeMessage? (encodeMessage s) = some s := by
  rw [decodeMessage?, encodeMessage, Text.Percent.decode_encode (by decide), Text.decode?_encode]

/-- No two codes have the same number as text. -/
theorem find?_code (c : Code) :
    Code.all.find? (fun d => Text.encode (toString d.number) == Text.encode (toString c.number)) = some c := by
  cases c <;> decide

/-- The status of an answer is in its headers. -/
theorem lookup_status (s : Status) :
    s.headers.lookup "grpc-status" = some (Text.encode (toString s.code.number)) := by
  rw [headers]
  split <;> rfl

/-- So is its message, unless that is empty. -/
theorem lookup_message (s : Status) : s.headers.lookup "grpc-message" =
    if s.message.isEmpty then none else some (encodeMessage s.message) := by
  rw [headers]
  split <;> rfl

/-- **A status is read back from its headers**, also when there are others before them. -/
theorem ofHeaders?_headers (s : Status) (before : List (String × Bytes))
    (hstatus : before.lookup "grpc-status" = none) (hmessage : before.lookup "grpc-message" = none) :
    ofHeaders? (before ++ s.headers) = some s := by
  rw [ofHeaders?, List.lookup_append, List.lookup_append, hstatus, hmessage, Option.none_or, Option.none_or,
    lookup_status, lookup_message]
  simp only [bind, Option.bind, find?_code, Option.getD_some]
  by_cases hempty : s.message.isEmpty = true
  · -- an empty message is left out
    rw [if_pos hempty]
    have hnone : s.message = "" := String.isEmpty_iff.1 hempty
    exact congrArg (fun m => some (Status.mk s.code m)) hnone.symm
  · simp only [if_neg hempty, decodeMessage?_encodeMessage]

end Status

/-! ## Frames -/

namespace Frame

/-- The bound of the lengths that the four bytes in a frame can tell. -/
def lengthBound : Nat := Nat.pow 2 32

/-- The length in a frame is read back. -/
theorem length4_value {n : Nat} (h : n < lengthBound) :
    (((n / 16777216).toUInt8.toNat * 256 + (n / 65536).toUInt8.toNat) * 256 + (n / 256).toUInt8.toNat) * 256 +
      n.toUInt8.toNat = n := by
  have hn : n < 4294967296 := h
  simp only [Nat.toUInt8, UInt8.toNat_ofNat']
  omega

/-- **A frame is read back**, up to what follows it. -/
theorem next_wrap (d : Direction) {limit : Nat} {message : Bytes} (hlimit : message.length ≤ limit)
    (hbound : message.length < lengthBound) (rest : Bytes) :
    next d limit (wrap message ++ rest) = .ok (some (message, rest)) := by
  have hlength := length4_value hbound
  have hfits : message.length ≤ (message ++ rest).length := by
    rw [List.length_append]
    exact Nat.le_add_right _ _
  simp only [wrap, length4, List.cons_append, List.nil_append, next, bne_self_eq_false, Bool.false_eq_true,
    if_false, hlength, Nat.not_lt.2 hlimit, hfits, if_true, List.take_left, List.drop_left]

/-- **A body of one frame is read as one message.** -/
theorem readAll_wrap {α : Type} (d : Direction) {limit : Nat} {read : Bytes → Except Status α} {message : Bytes}
    {v : α} (hlimit : message.length ≤ limit) (hbound : message.length < lengthBound)
    (hread : read message = .ok v) :
    readAll d limit read ((wrap message).length + 1) (wrap message) = .ok [v] := by
  have hnext := next_wrap d hlimit hbound []
  rw [List.append_nil] at hnext
  have hempty : ∀ fuel, readAll d limit read fuel [] = .ok [] := by
    intro fuel
    cases fuel <;> rfl
  rw [readAll, hnext]
  simp only [bind, Except.bind, hread, hempty]

end Frame

/-! ## Requests and responses -/

/-- A message gets through: its sender may write it, its receiver may read it, and a frame can tell its
length. -/
structure Fits (sender receiver : Limits) (message : Bytes) : Prop where
  encode : ∀ limit, sender.encode = some limit → message.length ≤ limit
  decode : message.length ≤ receiver.decode
  frame : message.length < Frame.lengthBound

/-- A message that gets through has a length that can be told in a field. -/
theorem Fits.wire {sender receiver : Limits} {message : Bytes} (h : Fits sender receiver message) :
    message.length < Wire.lengthBound :=
  Nat.lt_trans h.frame (by decide)

/-- A client that is connected to a server without a guard, and whose base address has no path of its own. -/
structure Channel.IsDirect (c : Channel) : Prop where
  ready : c.notReady = none
  unguarded : c.refusal = none
  path (m : Method) : c.pathOf m = .ok m.path

section Carriage

variable {α : Type} {read : Bytes → Except Wire.Fault α} {sender receiver : Limits} {message : Bytes} {v : α}

/-- A body of one frame is read as one message of the service. -/
theorem readAll_message (d : Frame.Direction) (h : Fits sender receiver message) (hread : read message = .ok v) :
    Frame.readAll d receiver.decode (fun b => (read b).mapError wireStatus) ((Frame.wrap message).length + 1)
      (Frame.wrap message) = .ok [v] := by
  have hread' : (fun b => (read b).mapError wireStatus) message = .ok v := by
    simp only [hread]
    rfl
  exact Frame.readAll_wrap d h.decode h.frame hread'

/-- **The message of a request is read.** -/
theorem readRequest_wrap (h : Fits sender receiver message) (hread : read message = .ok v) (path : String) :
    readRequest receiver read { path := path, body := Frame.wrap message } = .ok v := by
  simp only [readRequest, bind, Except.bind, readAll_message .request h hread]

/-- **The message of an answer is read**, and the status after it is good. -/
theorem readResponse_message (h : Fits sender receiver message) (hread : read message = .ok v) :
    readResponse receiver read (messageResponse sender message) = .ok v := by
  have hresponse : messageResponse sender message =
      ⟨[contentType], Frame.wrap message, some (Status.headers ⟨.ok, ""⟩)⟩ := by
    rw [messageResponse]
    split
    · rename_i limit hlimit
      rw [if_neg (Nat.not_lt.2 (h.encode limit hlimit))]
    · rfl
  have hbefore : Status.ofHeaders? [contentType] = none := rfl
  have hafter : Status.ofHeaders? (Status.headers ⟨.ok, ""⟩) = some ⟨.ok, ""⟩ :=
    Status.ofHeaders?_headers ⟨.ok, ""⟩ [] rfl rfl
  rw [readResponse, hresponse]
  simp only [hbefore, bind, Except.bind, readAll_message .response h hread, Option.getD_some, hafter]
  rfl

/-- **The status of a failed call is read.** -/
theorem readResponse_status {s : Status} (hs : s.code ≠ .ok) :
    readResponse receiver read (statusResponse s) = .error s := by
  have hstatus : Status.ofHeaders? (contentType :: s.headers) = some s :=
    Status.ofHeaders?_headers s [contentType] rfl rfl
  rw [readResponse, statusResponse]
  simp only [hstatus, bne_iff_ne, ne_eq, hs, not_false_eq_true, if_true]
  rfl

/-- **An answer comes through**, be it a value, a status or a breakdown. -/
theorem readResponse_answer {encode : α → Bytes} {a : Answered α}
    (hcode : ∀ s, a.result = .ok (.error s) → s.code ≠ .ok)
    (hfits : ∀ v, a.result = .ok (.ok v) → Fits sender receiver (encode v))
    (hread : ∀ v, Fits sender receiver (encode v) → read (encode v) = .ok v) :
    (answerResponse sender encode a).result.map (fun r => r.bind (readResponse receiver read)) = a.result := by
  rw [answerResponse]
  cases hresult : a.result with
  | error p => rfl
  | ok r =>
    cases r with
    | error s => exact congrArg Except.ok (readResponse_status (hcode s hresult))
    | ok v =>
      have h := hfits v hresult
      exact congrArg Except.ok (readResponse_message h (hread v h))

end Carriage

/-! ## Calls -/

/-- No error of the service is told as success. -/
theorem ofServiceError_code (e : ServiceError) : (Status.ofServiceError e).code ≠ .ok := by
  cases e <;> simp [Status.ofServiceError]

/-- A failed call is never told to be a good one. -/
theorem answered_code {α : Type} {served : Served α} {s : Status}
    (h : (answered served).result = .ok (.error s)) : s.code ≠ .ok := by
  rw [answered] at h
  rcases hout : served.outcome with (e | v) | p
  · rw [hout] at h
    cases h
    exact ofServiceError_code e
  · rw [hout] at h
    cases h
  · rw [hout] at h
    cases h

/-- A status that a recall answers with is not success. -/
theorem getHistory_code {w : World} {desk : Desk} {s : Status}
    (h : (getHistory w desk).result = .ok (.error s)) : s.code ≠ .ok := by
  rw [getHistory, Answered.map] at h
  cases hresult : (answered (desk.recall w)).result with
  | error p =>
    rw [hresult] at h
    cases h
  | ok r =>
    rw [hresult] at h
    cases r with
    | error s' =>
      cases h
      exact answered_code hresult
    | ok v => cases h

/-- A method is found by its path. -/
theorem Method.ofPath?_path (m : Method) : Method.ofPath? m.path = some m := by
  cases m <;> decide

/-- A call on a direct channel: the request that is sent is answered by the server, and the response is read. -/
theorem Channel.call_of_isDirect {α : Type} {c : Channel} (hc : c.IsDirect) (w : World) (desk : Desk) (m : Method)
    {message : Bytes} (read : Bytes → Except Wire.Fault α)
    (hsend : ∀ limit, c.limits.encode = some limit → message.length ≤ limit) :
    c.call w desk m message read =
      let a := respond w c.serverLimits desk { path := m.path, body := Frame.wrap message }
      ⟨a.result.map fun r => r.bind (readResponse c.limits read), a.desk, a.calls, a.notices⟩ := by
  have hsent : c.limits.encode.filter (message.length > ·) = none := by
    rw [Option.filter_eq_none_iff]
    intro limit hlimit
    rw [decide_eq_true_eq]
    exact Nat.not_lt.2 (hsend limit hlimit)
  simp only [call, hc.ready, hc.path, hc.unguarded, guarded, hsent, Option.map_none]

/-- The server answers a request for the newest phrases with them. -/
theorem respond_getHistory {client server : Limits} (h : Fits client server historyRequest) (w : World)
    (desk : Desk) :
    respond w server desk { path := Method.path .getHistory, body := Frame.wrap historyRequest } =
      answerResponse server historyMessage (getHistory w desk) := by
  have hread := readRequest_wrap h readHistoryRequest_historyRequest (Method.path .getHistory)
  simp only [respond, Method.ofPath?_path, List.lookup_nil, Option.filter_none, hread]

/-- The server answers a request for a rendering with it. -/
theorem respond_translate {client server : Limits} {q : Query} (h : Fits client server (queryMessage q))
    (w : World) (desk : Desk) :
    respond w server desk { path := Method.path .translate, body := Frame.wrap (queryMessage q) } =
      answerResponse server renderedMessage (translate w desk q) := by
  have hread := readRequest_wrap h (readQuery_queryMessage h.wire) (Method.path .translate)
  simp only [respond, Method.ofPath?_path, List.lookup_nil, Option.filter_none, hread]

/-- **A call over the wire is the call itself.** On a channel that leads straight to the server, a client gets from
either method, whatever stands behind the desk, what the method itself would give: the same phrases in the same
order, or the same status with the same message, or the same breakdown. The desk is asked once, and if the call
was for a rendering, with the query of the client. All it takes is that the messages fit. -/
theorem Channel.call_over_wire {c : Channel} (hc : c.IsDirect) (w : World) (desk : Desk) :
    ((∀ phrases, (Grpc.getHistory w desk).result = .ok (.ok phrases) →
        Fits c.serverLimits c.limits (historyMessage phrases)) →
      c.getHistory w desk = Grpc.getHistory w desk ∧
        (c.getHistory w desk).desk = (desk.recall w).desk ∧
        (c.getHistory w desk).calls = facilityUses (desk.recall w).events) ∧
    ∀ q, Fits c.limits c.serverLimits (queryMessage q) →
      (∀ p, (Grpc.translate w desk q).result = .ok (.ok p) →
        Fits c.serverLimits c.limits (renderedMessage p)) →
      c.translate w desk q = Grpc.translate w desk q ∧
        (c.translate w desk q).desk = (desk.render w q).desk ∧
        (c.translate w desk q).calls = facilityUses (desk.render w q).events := by
  have hserved : ∀ {α : Type} (s : Served α),
      (answered s).desk = s.desk ∧ (answered s).calls = facilityUses s.events := by
    intro α s
    rw [answered]
    rcases s.outcome with (e | v) | p <;> exact ⟨rfl, rfl⟩
  refine ⟨fun hfits => ?_, fun q hquery hfits => ?_⟩
  · have hrequest : Fits c.limits c.serverLimits historyRequest :=
      ⟨fun limit _ => Nat.zero_le limit, Nat.zero_le _, by decide⟩
    have hanswer := readResponse_answer (fun s h => getHistory_code h) hfits
      (fun phrases h => readHistory_historyMessage h.wire)
    have hsame : c.getHistory w desk = Grpc.getHistory w desk := by
      rw [getHistory, call_of_isDirect hc w desk _ _ hrequest.encode, respond_getHistory hrequest]
      dsimp only
      rw [hanswer]
      rfl
    rw [hsame]
    exact ⟨rfl, hserved (desk.recall w)⟩
  · have hcode : ∀ s, (Grpc.translate w desk q).result = .ok (.error s) → s.code ≠ .ok :=
      fun s h => answered_code h
    have hanswer := readResponse_answer hcode hfits
      (fun p h => readRendered_renderedMessage h.wire)
    have hsame : c.translate w desk q = Grpc.translate w desk q := by
      rw [translate, call_of_isDirect hc w desk _ _ hquery.encode, respond_translate hquery]
      dsimp only
      rw [hanswer]
      rfl
    rw [hsame]
    exact ⟨rfl, hserved (desk.render w q)⟩

/-! ## Odd characters in narrow limits

The client may send at most thirty bytes and read at most forty, the server has the usual limits. The desk has
two phrases, one of them empty, and refuses every query with a message that needs escapes. -/

/-- A channel with limits. -/
def narrow : Channel := { limits := { encode := some 30, decode := 40 } }

/-- A query with an empty field and odd characters. -/
def oddQuery : Query := ⟨"en", "", "100% \u00e4\n"⟩

/-- The phrases of the desk. -/
def oddPhrases : List Phrase := [⟨"en", "de", "", "\u00e4"⟩, ⟨"", "", "", ""⟩]

/-- The desk. -/
def oddDesk : Desk := .fixed (.answer (.ok ⟨oddPhrases⟩)) (.answer (.error (.validation "100% \u00e4\n")))

/-- A world in which nothing fails. -/
def calmWorld : World := { brings := fun q => .ok (q.phrase "") }

/-- A query with odd characters and its refusal get through the narrow channel, and so does the page. -/
theorem narrow_call_over_wire :
    narrow.IsDirect ∧ Fits narrow.limits narrow.serverLimits (queryMessage oddQuery) ∧
      (narrow.getHistory calmWorld oddDesk).result = .ok (.ok oddPhrases) ∧
      (narrow.translate calmWorld oddDesk oddQuery).result =
        .ok (.error ⟨.invalidArgument, "100% \u00e4\n"⟩) := by
  have hdirect : narrow.IsDirect := ⟨rfl, rfl, fun _ => rfl⟩
  have hlength : (queryMessage oddQuery).length = 14 := by decide +kernel
  have hquery : Fits narrow.limits narrow.serverLimits (queryMessage oddQuery) := by
    refine ⟨?_, by rw [hlength]; decide, by rw [hlength]; decide⟩
    intro limit hlimit
    cases hlimit
    rw [hlength]
    decide
  have hlength' : (historyMessage oddPhrases).length = 16 := by decide +kernel
  have hphrases : Fits narrow.serverLimits narrow.limits (historyMessage oddPhrases) := by
    refine ⟨?_, by rw [hlength']; decide, by rw [hlength']; decide⟩
    intro limit hlimit
    cases hlimit
  obtain ⟨hhistory, htranslate⟩ := Channel.call_over_wire hdirect calmWorld oddDesk
  obtain ⟨hlist, -⟩ := hhistory (by rintro phrases h; cases h; exact hphrases)
  obtain ⟨hrefused, -⟩ := htranslate oddQuery hquery (by rintro p h; cases h)
  refine ⟨hdirect, hquery, ?_, ?_⟩
  · rw [hlist]
    rfl
  · rw [hrefused]
    rfl

end Grpc

end Phrasebook
