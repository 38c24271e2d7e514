import Mathlib
import TlcpLoad.Proofs.Wire.FieldCodec
import TlcpLoad.Proofs.FrameAssembly
import TlcpLoad.Wire.Request

/-! # Reading request texts back

A request's parameters are `name=value` parts joined by `&`, every value quoted. Quoted text
holds neither `&` nor `=` (`FieldCodec.quote_avoids`), so splitting the text at every `&` gives
back the parts, splitting a part at its first `=` gives back its name and quoted value, and
unquoting gives back the value (`readParams_paramsText`).

Each request is written as such a text of the parameters it declares (`createSession_params`
and its siblings), except that a subscription's id and mode are written without quoting: they
read back only when quoting leaves them unchanged, and a mode with an `&` in it adds a
parameter (`subscribe_mode_splits`). -/

namespace TlcpLoad.Request

open FieldCodec

/-! ## Parameter texts -/

/-- How a parameter is written: its name, `=`, and its value quoted. -/
def paramText (p : String × String) : String :=
  p.1 ++ "=" ++ quote p.2

/-- A parameter text with every value quoted, parameters joined by `&`. -/
def paramsText (ps : List (String × String)) : String :=
  "&".intercalate (ps.map paramText)

/-- One part of a parameter text read back: the name before its first `=`, and the value after
it unquoted. -/
def readParam (part : List UInt8) : List UInt8 × Except DecodeError String :=
  (part.takeWhile (· != 0x3D), unquote ((part.dropWhile (· != 0x3D)).drop 1))

/-- A parameter text read back: split at every `&`, and each part read by `readParam`. -/
def readParams (params : String) : List (List UInt8 × Except DecodeError String) :=
  ((Utf8.ofString params).splitOn 0x26).map readParam

/-- What reading a parameter list back should give: each name, as bytes, with its value. -/
def declared (ps : List (String × String)) : List (List UInt8 × Except DecodeError String) :=
  ps.map fun p => (Utf8.ofString p.1, .ok p.2)

/-! ## Reading a parameter text back -/

/-- Decimal digits stand for themselves in quoted text. -/
theorem quote_natText (n : Nat) : quote (Numeral.natText n) = Numeral.natText n := by
  have hdigit : ∀ c ∈ Nat.toDigits 10 n, quoteByte c.toNat.toUInt8 = [c] := by
    intro c hc
    have hr := Numeral.toNat_of_isDigit (Numeral.isDigit_of_mem_natText hc)
    have hb : c.toNat.toUInt8.toNat = c.toNat := Utf8.toNat_toUInt8 (by omega)
    rw [quoteByte_of_unreserved ((isUnreserved_iff _).2 (by omega)), hb, Char.ofNat_toNat]
  rw [quote, Numeral.ofString_natText, List.flatMap_map, List.flatMap_congr hdigit,
    List.flatMap_singleton', Numeral.natText]

theorem amp_not_mem_quote (s : String) : (0x26 : UInt8) ∉ Utf8.ofString (quote s) :=
  Utf8.not_mem_ofString (fun hm => quote_avoids s '&' hm (by simp)) (by decide)

@[simp] theorem ofString_amp : Utf8.ofString "&" = [0x26] := rfl

@[simp] theorem ofString_eq : Utf8.ofString "=" = [0x3D] := rfl

/-- A name with no `=` in it, followed by `=` and a quoted value, reads back as the two. -/
theorem readParam_paramText {p : String × String} (h : '=' ∉ p.1.toList) :
    readParam (Utf8.ofString (paramText p)) = (Utf8.ofString p.1, .ok p.2) := by
  have hname : ∀ b ∈ Utf8.ofString p.1, (b != 0x3D) = true := by
    intro b hb
    have : b ≠ 0x3D := by
      rintro rfl
      exact Utf8.not_mem_ofString h (by decide) hb
    simpa using this
  rw [paramText, Utf8.ofString_append, Utf8.ofString_append, ofString_eq, List.append_assoc,
    readParam, List.takeWhile_append_of_pos hname, List.dropWhile_append_of_pos hname]
  simp [unquote_quote]

theorem amp_not_mem_paramText {p : String × String} (h : '&' ∉ p.1.toList) :
    (0x26 : UInt8) ∉ Utf8.ofString (paramText p) := by
  rw [paramText, Utf8.ofString_append, Utf8.ofString_append, ofString_eq]
  simp only [List.mem_append, List.mem_singleton, not_or]
  exact ⟨⟨Utf8.not_mem_ofString h (by decide), by decide⟩, amp_not_mem_quote _⟩

/-- A parameter text whose names hold no `&` and no `=` reads back as its parameters. -/
theorem readParams_paramsText {ps : List (String × String)} (hne : ps ≠ [])
    (hnames : ∀ p ∈ ps, '&' ∉ p.1.toList ∧ '=' ∉ p.1.toList) :
    readParams (paramsText ps) = declared ps := by
  have hsep : ∀ l ∈ ps.map (Utf8.ofString ∘ paramText), (0x26 : UInt8) ∉ l := by
    intro l hl
    obtain ⟨p, hp, rfl⟩ := List.mem_map.1 hl
    exact amp_not_mem_paramText (hnames p hp).1
  rw [readParams, paramsText, Utf8.ofString_intercalate, ofString_amp, List.map_map,
    List.splitOn_intercalate _ hsep (by simpa using hne), List.map_map, declared]
  exact List.map_congr_left fun p hp => readParam_paramText (hnames p hp).2

/-! ## The WebSocket shape -/

/-- The first CR LF of a text, if any, and what stands before and after it. -/
def splitAtCrLf (bs : List UInt8) : Option (List UInt8 × List UInt8) :=
  (findCrLf bs).map fun i => (bs.take i, bs.drop (i + 2))

theorem splitAtCrLf_wsText (r : Request) :
    splitAtCrLf (Utf8.ofString r.wsText) = some (Utf8.ofString r.kind.name, Utf8.ofString r.params) := by
  rw [wsText, Utf8.ofString_append, Utf8.ofString_append]
  -- the name holds no CR LF, so the first one is the one after it, whatever the parameters hold
  generalize Utf8.ofString r.params = tail
  cases r.kind <;> rfl

/-! ## The parameters of each request -/

/-- The parameters a session creation declares, with the arguments they carry. -/
def createSessionParams (adapterSet : String) (user password : Option String) :
    List (String × String) :=
  [("LS_polling", "true"), ("LS_cause", "new.api"), ("LS_polling_millis", "0"),
    ("LS_idle_millis", "0"), ("LS_cid", "mgQkwtwdysogQz2BJ4Ji kOj2Bg"),
    ("LS_adapter_set", adapterSet)] ++
  (user.map ("LS_user", ·)).toList ++ (password.map ("LS_password", ·)).toList

/-- The parameters a subscription declares, with the arguments they carry. -/
def subscribeParams (reqId : Nat) (subId : String) (sub : Subscription) (sessionId : String) :
    List (String × String) :=
  [("LS_reqId", Numeral.natText reqId), ("LS_op", "add"), ("LS_subId", subId),
    ("LS_mode", sub.mode), ("LS_group", sub.items.joined), ("LS_schema", sub.fields.joined)] ++
  (sub.dataAdapter.map ("LS_data_adapter", ·)).toList ++
  (sub.snapshot.map fun b => ("LS_snapshot", if b then "true" else "false")).toList ++
  (sub.maxFrequency.map ("LS_requested_max_frequency", ·)).toList ++
  (sub.bufferSize.map fun n => ("LS_requested_buffer_size", Numeral.natText n)).toList ++
  [("LS_session", sessionId)]

theorem createSession_params (adapterSet : String) (user password : Option String) :
    (createSession adapterSet user password).params =
      paramsText (createSessionParams adapterSet user password) := by
  have hcid : quote "mgQkwtwdysogQz2BJ4Ji kOj2Bg" = clientId := by decide
  have htrue : quote "true" = "true" := by decide
  have hcause : quote "new.api" = "new.api" := by decide
  have hzero : quote "0" = "0" := by decide
  cases user <;> cases password <;>
    simp only [createSession, createSessionParams, paramsText, paramText, Option.map, Option.toList,
      List.append_nil, List.cons_append, List.nil_append, List.map_cons, List.map_nil,
      String.intercalate_cons_cons, String.intercalate_singleton, hcid, htrue, hcause, hzero,
      clientId]
  -- both sides are now appends of literals and quoted arguments: compare their characters
  all_goals simp only [String.append_assoc]
  all_goals simp only [← String.append_assoc, String.reduceAppend]

theorem bindSession_params (sessionId : String) :
    (bindSession sessionId).params = paramsText [("LS_cause", "loop1"), ("LS_session", sessionId)] := by
  have hloop : quote "loop1" = "loop1" := by decide
  simp only [bindSession, paramsText, paramText, List.map_cons, List.map_nil,
    String.intercalate_cons_cons, String.intercalate_singleton, hloop]
  simp only [String.append_assoc]
  simp only [← String.append_assoc, String.reduceAppend]

theorem message_params (reqId : Nat) (text sessionId : String) :
    (message reqId text sessionId).params =
      paramsText [("LS_reqId", Numeral.natText reqId), ("LS_message", text),
        ("LS_outcome", "false"), ("LS_ack", "false"), ("LS_session", sessionId)] := by
  have hfalse : quote "false" = "false" := by decide
  simp only [message, paramsText, paramText, List.map_cons, List.map_nil,
    String.intercalate_cons_cons, String.intercalate_singleton, hfalse, quote_natText]
  simp only [String.append_assoc]
  simp only [← String.append_assoc, String.reduceAppend]

theorem subscribe_params (reqId : Nat) {subId : String} {sub : Subscription} (sessionId : String)
    (hsubId : quote subId = subId) (hmode : quote sub.mode = sub.mode) :
    (subscribe reqId subId sub sessionId).params =
      paramsText (subscribeParams reqId subId sub sessionId) := by
  have hadd : quote "add" = "add" := by decide
  have htrue : quote "true" = "true" := by decide
  have hfalse : quote "false" = "false" := by decide
  obtain ⟨mode, items, fields, snapshot, dataAdapter, maxFrequency, bufferSize⟩ := sub
  dsimp only at hmode
  rcases snapshot with _ | _ | _ <;> cases dataAdapter <;> cases maxFrequency <;>
    cases bufferSize <;>
    simp only [subscribe, subscribeParams, paramsText, paramText, Option.map, Option.toList,
      List.append_nil, List.cons_append, List.nil_append, List.map_cons, List.map_nil,
      String.intercalate_cons_cons, String.intercalate_singleton, hadd, htrue, hfalse, hsubId, hmode,
      quote_natText, Bool.false_eq_true, if_true, if_false, String.append_empty]
  all_goals simp only [String.append_assoc]
  all_goals simp only [← String.append_assoc, String.reduceAppend]

theorem createSessionParams_names (adapterSet : String) (user password : Option String) :
    ∀ p ∈ createSessionParams adapterSet user password, '&' ∉ p.1.toList ∧ '=' ∉ p.1.toList := by
  cases user <;> cases password <;> simp [createSessionParams]

theorem subscribeParams_names (reqId : Nat) (subId : String) (sub : Subscription)
    (sessionId : String) :
    ∀ p ∈ subscribeParams reqId subId sub sessionId, '&' ∉ p.1.toList ∧ '=' ∉ p.1.toList := by
  simp [subscribeParams]
  -- what is left are the optional parameters, each with its fixed name
  rintro a b (⟨-, rfl⟩ | (⟨-, rfl, -⟩ | ⟨-, rfl, -⟩) | ⟨-, rfl⟩ | ⟨-, -, rfl, -⟩ | ⟨rfl, -⟩) <;> simp

/-- Every request reads back as the parameters it declares, in order, each value the argument it
came from and the client id unquoted; the subscription's id and mode are written as they are, so
this holds when quoting leaves them alone. Over a WebSocket a request splits at its first CR LF
into its kind's name and its parameters, and over HTTP its body is the parameters and CR LF. -/
theorem requests_read_back (adapterSet : String) (user password : Option String) (reqId : Nat)
    (subId text sessionId : String) (sub : Subscription) (hsubId : quote subId = subId)
    (hmode : quote sub.mode = sub.mode) :
    readParams (createSession adapterSet user password).params =
      declared (createSessionParams adapterSet user password) ∧
    readParams (bindSession sessionId).params =
      declared [("LS_cause", "loop1"), ("LS_session", sessionId)] ∧
    readParams (subscribe reqId subId sub sessionId).params =
      declared (subscribeParams reqId subId sub sessionId) ∧
    readParams (message reqId text sessionId).params =
      declared [("LS_reqId", Numeral.natText reqId), ("LS_message", text),
        ("LS_outcome", "false"), ("LS_ack", "false"), ("LS_session", sessionId)] ∧
    (∀ r : Request, splitAtCrLf (Utf8.ofString r.wsText) =
      some (Utf8.ofString r.kind.name, Utf8.ofString r.params) ∧ r.httpBody = r.params ++ "\r\n") := by
  refine ⟨?_, ?_, ?_, ?_, fun r => ⟨splitAtCrLf_wsText r, rfl⟩⟩
  · rw [createSession_params]
    exact readParams_paramsText (by simp [createSessionParams])
      (createSessionParams_names adapterSet user password)
  · rw [bindSession_params]
    exact readParams_paramsText (by simp) (by simp)
  · rw [subscribe_params reqId sessionId hsubId hmode]
    exact readParams_paramsText (by simp [subscribeParams])
      (subscribeParams_names reqId subId sub sessionId)
  · rw [message_params]
    exact readParams_paramsText (by simp) (by simp)

theorem requests_read_back_merge :
    readParams (subscribe 1 "1" (Subscription.ofMode "MERGE") "S1").params =
      declared (subscribeParams 1 "1" (Subscription.ofMode "MERGE") "S1") :=
  (requests_read_back "DEMO" none none 1 "1" "hello" "S1" (Subscription.ofMode "MERGE")
    (by decide) (by decide)).2.2.1

/-- A mode is written as it is: its `&` starts a parameter of its own. -/
theorem subscribe_mode_splits :
    (readParams (subscribe 1 "1" (Subscription.ofMode "A&B") "S1").params).map Prod.fst =
      ["LS_reqId", "LS_op", "LS_subId", "LS_mode", "B", "LS_group", "LS_schema", "LS_session"].map
        Utf8.ofString := by
  decide

end TlcpLoad.Request
