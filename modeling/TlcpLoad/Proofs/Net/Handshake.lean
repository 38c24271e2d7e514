import Mathlib
import TlcpLoad.Net.WebSocket

/-! # The handshake response

The hand-written WebSocket transport checks the server's answer to its upgrade request. This
module reads the answer the way RFC 6455 §4.1 speaks of it: a status line, whose second word is
the status code, and header fields, a name and a value on each later line that holds a colon,
both trimmed of blanks and the name matched in any ASCII case (`headerValues`).

`checkUpgrade_eq` says what the check gives in those terms. A response whose status is not 101
is refused and sets no cookie. Otherwise every `Set-Cookie` value goes to the cookie jar, in
order, and the response is accepted exactly when the last `Sec-WebSocket-Accept` header carries
the expected value. §4.1 has the client fail the connection when that header's value is not the
expected one, and §11.3.3 allows the header once: on a response with one such header at most,
the check does just that; a wrong value followed by the right one is let through. -/

namespace TlcpLoad.WebSocket

/-- A header line cut at its first colon into a name and a value, both trimmed of blanks. -/
def headerField? (line : String) : Option (String × String) :=
  (splitOnce line ':').map fun nv => (Blank.trimString nv.1, Blank.trimString nv.2)

/-- The values of the header fields whose name is `lowerName` in any ASCII case. -/
def valuesNamed (lowerName : String) (fields : List (String × String)) : List String :=
  fields.filterMap fun nv => if asciiLower nv.1 = lowerName then some nv.2 else none

/-- The header fields of a response: those of its lines after the first. -/
def headerFields (response : String) : List (String × String) :=
  ((crlfLines response).drop 1).filterMap headerField?

/-- The values of the headers of a response with a name, given in lowercase, in order. -/
def headerValues (lowerName response : String) : List String :=
  valuesNamed lowerName (headerFields response)

/-- The status line's second word is `101`: the server switches protocols. -/
def SwitchesProtocols (response : String) : Prop :=
  (Blank.wordsOf ((crlfLines response).headD ""))[1]? = some "101"

instance : DecidablePred SwitchesProtocols :=
  fun _ => inferInstanceAs (Decidable (_ = _))

/-! ## Reading the header lines -/

@[simp] theorem valuesNamed_nil (lowerName : String) : valuesNamed lowerName [] = [] := rfl

theorem valuesNamed_cons (lowerName : String) (nv : String × String)
    (fields : List (String × String)) :
    valuesNamed lowerName (nv :: fields) =
      (if asciiLower nv.1 = lowerName then [nv.2] else []) ++ valuesNamed lowerName fields := by
  by_cases h : asciiLower nv.1 = lowerName <;> simp [valuesNamed, h]

/-- What reading the header lines leaves: whether the last accept header carried the expected
    value (the flag it started with if there is none), and the cookies, latest first, before
    those it started with. -/
theorem foldl_scanHeader (expected : String) (lines : List String) (acc : Bool × List String) :
    lines.foldl (scanHeader expected) acc =
      (((valuesNamed "sec-websocket-accept" (lines.filterMap headerField?)).getLast?).elim acc.1
          (· == expected),
        (valuesNamed "set-cookie" (lines.filterMap headerField?)).reverse ++ acc.2) := by
  induction lines generalizing acc with
  | nil => simp
  | cons line lines ih =>
    rw [List.foldl_cons, ih]
    cases hf : headerField? line with
    | none =>
      have hnone : splitOnce line ':' = none := by simpa [headerField?] using hf
      simp [scanHeader, hnone, hf]
    | some nv =>
      obtain ⟨name, value⟩ := nv
      obtain ⟨n, v, hsplit, rfl, rfl⟩ : ∃ n v, splitOnce line ':' = some (n, v) ∧
          name = Blank.trimString n ∧ value = Blank.trimString v := by
        simp only [headerField?, Option.map_eq_some_iff, Prod.mk.injEq] at hf
        obtain ⟨⟨n, v⟩, hs, rfl, rfl⟩ := hf
        exact ⟨n, v, hs, rfl, rfl⟩
      simp only [List.filterMap_cons, hf, valuesNamed_cons, List.getLast?_append,
        List.reverse_append, List.append_assoc]
      -- the line is an accept header, a cookie, or neither
      by_cases ha : asciiLower (Blank.trimString n) = "sec-websocket-accept"
      · cases (valuesNamed "sec-websocket-accept" (lines.filterMap headerField?)).getLast? <;>
          simp [scanHeader, hsplit, ha]
      · by_cases hc : asciiLower (Blank.trimString n) = "set-cookie"
        · simp [scanHeader, hsplit, hc]
        · simp [scanHeader, hsplit, ha, hc]

/-- The check in terms of the response's status and headers. -/
theorem checkUpgrade_eq (response key : String) :
    checkUpgrade response key =
      if SwitchesProtocols response then
        ⟨headerValues "set-cookie" response,
          if (headerValues "sec-websocket-accept" response).getLast? = some (acceptKey key) then
            .ok ()
          else .error (.transport "invalid Sec-WebSocket-Accept")⟩
      else ⟨[], .error (.transport ("WebSocket upgrade refused: " ++ firstLine response))⟩ := by
  by_cases hs : SwitchesProtocols response
  · rw [if_pos hs]
    unfold SwitchesProtocols at hs
    unfold checkUpgrade headerValues headerFields
    cases hl : crlfLines response with
    | nil => simp [hl, Blank.wordsOf, Blank.words] at hs
    | cons status headers =>
      rw [hl, List.headD_cons] at hs
      simp only [hs, ne_eq, not_true_eq_false, if_false, List.drop_succ_cons, List.drop_zero]
      rw [foldl_scanHeader]
      simp only [List.append_nil]
      cases (valuesNamed "sec-websocket-accept" (headers.filterMap headerField?)).getLast? <;>
        simp
  · rw [if_neg hs]
    unfold SwitchesProtocols at hs
    unfold checkUpgrade
    cases hl : crlfLines response with
    | nil => rfl
    | cons status headers =>
      rw [hl, List.headD_cons] at hs
      simp only [hs, ne_eq, not_false_eq_true, if_true]

/-- What checking a handshake response does. A response is accepted exactly when its status is
    101 and its last `Sec-WebSocket-Accept` header, name in any ASCII case and value trimmed,
    carries the accept value of the key; when the response has one such header at most, that is
    when it has one and every one carries that value. A response with status 101 hands every
    `Set-Cookie` value to the cookie jar, trimmed and in order, whether it is accepted or not;
    any other response hands over none. -/
theorem checkUpgrade_accepts_last_accept_header (response key : String) :
    ((checkUpgrade response key).verdict = .ok () ↔
      SwitchesProtocols response ∧
        (headerValues "sec-websocket-accept" response).getLast? = some (acceptKey key)) ∧
    ((headerValues "sec-websocket-accept" response).length ≤ 1 →
      ((checkUpgrade response key).verdict = .ok () ↔
        SwitchesProtocols response ∧ headerValues "sec-websocket-accept" response ≠ [] ∧
          ∀ v ∈ headerValues "sec-websocket-accept" response, v = acceptKey key)) ∧
    (checkUpgrade response key).cookies =
      if SwitchesProtocols response then headerValues "set-cookie" response else [] := by
  have hverdict : (checkUpgrade response key).verdict = .ok () ↔ SwitchesProtocols response ∧
      (headerValues "sec-websocket-accept" response).getLast? = some (acceptKey key) := by
    rw [checkUpgrade_eq]
    by_cases hs : SwitchesProtocols response
    · by_cases hl : (headerValues "sec-websocket-accept" response).getLast? = some (acceptKey key)
      · simp [hs, hl]
      · simp [hs, hl]
    · simp [hs]
  refine ⟨hverdict, fun hone => ?_, ?_⟩
  · rw [hverdict]
    -- with one accept header at most, the last one is the only one
    match hvals : headerValues "sec-websocket-accept" response, hone with
    | [], _ => simp
    | [v], _ => simp [eq_comm]
  · rw [checkUpgrade_eq]
    split <;> rfl

/-- The server's answer in the sample handshake of RFC 6455 §1.3, cut to its accept header. -/
def rfcSampleAnswer : String :=
  "HTTP/1.1 101 Switching Protocols\r\nSec-WebSocket-Accept: s3pPLMBiTxaQ9kYGzzhZRbK+xOo=\r\n\r\n"

/-- The sample answer has one accept header, and it is accepted for the sample key. -/
theorem checkUpgrade_accepts_rfc_sample :
    (headerValues "sec-websocket-accept" rfcSampleAnswer).length ≤ 1 ∧
      ((checkUpgrade rfcSampleAnswer "dGhlIHNhbXBsZSBub25jZQ==").verdict = .ok () ↔
        SwitchesProtocols rfcSampleAnswer ∧
          headerValues "sec-websocket-accept" rfcSampleAnswer ≠ [] ∧
          ∀ v ∈ headerValues "sec-websocket-accept" rfcSampleAnswer,
            v = acceptKey "dGhlIHNhbXBsZSBub25jZQ==") :=
  have hone : (headerValues "sec-websocket-accept" rfcSampleAnswer).length ≤ 1 := by
    decide +kernel
  ⟨hone, (checkUpgrade_accepts_last_accept_header rfcSampleAnswer
    "dGhlIHNhbXBsZSBub25jZQ==").2.1 hone⟩

/-- The RFC's sample key, answered with a wrong accept header and then the right one: the check
    lets the response through although one of its accept values is wrong. -/
theorem checkUpgrade_accepts_after_wrong_accept :
    (checkUpgrade
        ("HTTP/1.1 101 Switching Protocols\r\nSec-WebSocket-Accept: nope\r\n" ++
          "Sec-WebSocket-Accept: s3pPLMBiTxaQ9kYGzzhZRbK+xOo=\r\n\r\n")
        "dGhlIHNhbXBsZSBub25jZQ==").verdict = .ok () ∧
      headerValues "sec-websocket-accept"
          ("HTTP/1.1 101 Switching Protocols\r\nSec-WebSocket-Accept: nope\r\n" ++
            "Sec-WebSocket-Accept: s3pPLMBiTxaQ9kYGzzhZRbK+xOo=\r\n\r\n") =
        ["nope", "s3pPLMBiTxaQ9kYGzzhZRbK+xOo="] ∧
      "nope" ≠ acceptKey "dGhlIHNhbXBsZSBub25jZQ==" := by
  have hvals : headerValues "sec-websocket-accept"
      ("HTTP/1.1 101 Switching Protocols\r\nSec-WebSocket-Accept: nope\r\n" ++
        "Sec-WebSocket-Accept: s3pPLMBiTxaQ9kYGzzhZRbK+xOo=\r\n\r\n") =
      ["nope", "s3pPLMBiTxaQ9kYGzzhZRbK+xOo="] := by
    decide +kernel
  have hstatus : SwitchesProtocols
      ("HTTP/1.1 101 Switching Protocols\r\nSec-WebSocket-Accept: nope\r\n" ++
        "Sec-WebSocket-Accept: s3pPLMBiTxaQ9kYGzzhZRbK+xOo=\r\n\r\n") := by
    decide +kernel
  refine ⟨?_, hvals, by rw [acceptKey_rfc_sample]; decide⟩
  rw [checkUpgrade_eq, if_pos hstatus, hvals, acceptKey_rfc_sample]
  rfl

end TlcpLoad.WebSocket
