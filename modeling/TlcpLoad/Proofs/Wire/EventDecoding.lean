import Mathlib
import TlcpLoad.Proofs.Decimal.Numeral
import TlcpLoad.Wire.Event

/-! # Reading server frames back

A frame is an event's kind, a comma and its fields, joined by commas; the last field of each kind
takes the rest of the frame. So a frame whose earlier fields hold no comma splits into exactly
the fields it was written from (`splitFields_cons`), whatever commas the last one holds, and each
field then reads back: texts through UTF-8, numbers through their decimal text.

`decodeEvent_eq_none_iff` says which frames are no event at all, and the `decodeEvent_*_frame`
theorems read each kind of frame back into the event it was written from. -/

namespace TlcpLoad.EventCodec

/-! ## Splitting at commas -/

theorem idxOf?_append_cons {l rest : List UInt8} {a : UInt8} (h : a ∉ l) :
    (l ++ a :: rest).idxOf? a = some l.length := by
  induction l with
  | nil => simp [List.idxOf?_cons]
  | cons x l ih =>
    have hx : x ≠ a := fun he => h (he ▸ List.mem_cons_self ..)
    rw [List.cons_append, List.idxOf?_cons, if_neg (by simpa using hx),
      ih fun hm => h (List.mem_cons_of_mem _ hm)]
    rfl

@[simp] theorem splitFields_one (bs : List UInt8) : splitFields 1 bs = [bs] := rfl

/-- A field with no comma in it is split off whole, and the rest is split as before. -/
theorem splitFields_cons {n : Nat} {field rest : List UInt8} (h : (0x2C : UInt8) ∉ field) :
    splitFields (n + 2) (field ++ 0x2C :: rest) = field :: splitFields (n + 1) rest := by
  rw [splitFields, idxOf?_append_cons h]
  simp

@[simp] theorem ofString_comma : Utf8.ofString "," = [0x2C] := rfl

theorem comma_not_mem_ofString {s : String} (h : ',' ∉ s.toList) :
    (0x2C : UInt8) ∉ Utf8.ofString s :=
  Utf8.not_mem_ofString h (by decide)

theorem comma_not_mem_natText (n : Nat) : (0x2C : UInt8) ∉ Utf8.ofString (Numeral.natText n) := by
  refine comma_not_mem_ofString fun h => ?_
  rw [Numeral.natText, String.toList_ofList] at h
  exact absurd (Numeral.isDigit_of_mem_natText h) (by decide)

theorem comma_not_mem_intText (i : Int) : (0x2C : UInt8) ∉ Utf8.ofString (Numeral.intText i) := by
  unfold Numeral.intText
  split
  · rw [Utf8.ofString_append]
    exact List.not_mem_append (by decide) (comma_not_mem_natText _)
  · exact comma_not_mem_natText _

/-! ## Taking fields -/

theorem Fields.bytes_cons (kind field : String) (bs : List UInt8) (rest : List (List UInt8)) :
    (⟨kind, bs :: rest⟩ : Fields).bytes field = pure (bs, ⟨kind, rest⟩) := rfl

theorem Fields.text_ofString (kind field s : String) (rest : List (List UInt8)) :
    (⟨kind, Utf8.ofString s :: rest⟩ : Fields).text field = pure (s, ⟨kind, rest⟩) := by
  simp only [Fields.text, Fields.bytes, Utf8.toString?_ofString]
  rfl

theorem Fields.number_cons {α : Type} {kind field : String} {read : List UInt8 → Option α}
    {bs : List UInt8} {n : α} (h : read bs = some n) (rest : List (List UInt8)) :
    (⟨kind, bs :: rest⟩ : Fields).number field read = pure (n, ⟨kind, rest⟩) := by
  simp only [Fields.number, Fields.bytes, h]
  rfl

/-! ## The reader of each kind

Each reader is handed the frame after its kind's prefix. The ids and numbers before the last
field hold no comma, so the split hands each reader its fields in order. -/

section Readers

variable {s : String} (hs : ',' ∉ s.toList)
include hs

theorem update_eq {item : Nat} (hitem : item < Nat.pow 2 32) (payload : List UInt8) :
    update (Utf8.ofString (s ++ "," ++ Numeral.natText item ++ ",") ++ payload) =
      (Event.update s item ·) <$> decodeFields payload := by
  simp only [Utf8.ofString_append, ofString_comma, List.append_assoc, List.cons_append,
    List.nil_append]
  unfold update
  simp only [splitFields_cons (comma_not_mem_ofString hs), splitFields_cons (comma_not_mem_natText _),
    Fields.text_ofString, Fields.number_cons (Numeral.readU32?_natText hitem), pure_bind]
  rfl

theorem subscribeOk_eq {totalItems totalFields : Int}
    (hi₁ : -(Nat.pow 2 31 : Int) ≤ totalItems) (hi₂ : totalItems < Nat.pow 2 31)
    (hf₁ : -(Nat.pow 2 31 : Int) ≤ totalFields) (hf₂ : totalFields < Nat.pow 2 31) :
    subscribeOk (Utf8.ofString (s ++ "," ++ Numeral.intText totalItems ++ "," ++
      Numeral.intText totalFields)) = .ok (.subscribeOk s totalItems totalFields) := by
  simp only [Utf8.ofString_append, ofString_comma, List.append_assoc, List.cons_append,
    List.nil_append]
  unfold subscribeOk
  simp only [splitFields_cons (comma_not_mem_ofString hs), splitFields_cons (comma_not_mem_intText _),
    Nat.zero_add, splitFields_one, Fields.text_ofString,
    Fields.number_cons (Numeral.readI32?_intText hi₁ hi₂), Fields.number_cons (Numeral.readI32?_intText hf₁ hf₂), pure_bind]
  rfl

theorem sessionOk_eq {limit keepalive : Nat} (hl : limit < Nat.pow 2 64)
    (hk : keepalive < Nat.pow 2 64) (link : String) :
    sessionOk (Utf8.ofString (s ++ "," ++ Numeral.natText limit ++ "," ++
      Numeral.natText keepalive ++ "," ++ link)) =
      .ok (.sessionOk s limit keepalive (if link = "*" then none else some link)) := by
  simp only [Utf8.ofString_append, ofString_comma, List.append_assoc, List.cons_append,
    List.nil_append]
  unfold sessionOk
  simp only [splitFields_cons (comma_not_mem_ofString hs), splitFields_cons (comma_not_mem_natText _),
    Nat.zero_add, splitFields_one, Fields.text_ofString,
    Fields.number_cons (Numeral.readU64?_natText hl), Fields.number_cons (Numeral.readU64?_natText hk),
    pure_bind]
  rfl

theorem requestError_eq {code : Int} (hc₁ : -(Nat.pow 2 31 : Int) ≤ code)
    (hc₂ : code < Nat.pow 2 31) (message : String) :
    requestError (Utf8.ofString (s ++ "," ++ Numeral.intText code ++ "," ++ message)) =
      .ok (.requestError s code message) := by
  simp only [Utf8.ofString_append, ofString_comma, List.append_assoc, List.cons_append,
    List.nil_append]
  unfold requestError
  simp only [splitFields_cons (comma_not_mem_ofString hs), splitFields_cons (comma_not_mem_intText _),
    Nat.zero_add, splitFields_one, Fields.text_ofString,
    Fields.number_cons (Numeral.readI32?_intText hc₁ hc₂), pure_bind]
  rfl

end Readers

theorem sessionError_eq {code : Int} (hc₁ : -(Nat.pow 2 31 : Int) ≤ code)
    (hc₂ : code < Nat.pow 2 31) (message : String) :
    sessionError (Utf8.ofString (Numeral.intText code ++ "," ++ message)) =
      .ok (.sessionError code message) := by
  simp only [Utf8.ofString_append, ofString_comma, List.append_assoc, List.cons_append,
    List.nil_append]
  unfold sessionError
  simp only [splitFields_cons (comma_not_mem_intText _), Nat.zero_add, splitFields_one,
    Fields.text_ofString, Fields.number_cons (Numeral.readI32?_intText hc₁ hc₂), pure_bind]
  rfl

/-! ## Kind prefixes -/

theorem afterPrefix_eq_none_iff {frame : List UInt8} {tag : String} :
    afterPrefix frame tag = none ↔ ¬ ascii tag <+: frame := by
  unfold afterPrefix
  dsimp only
  split <;> simp_all [ List.isPrefixOf_iff_prefix]

end TlcpLoad.EventCodec

namespace TlcpLoad
open EventCodec

/-! ## Frames of no kind -/

theorem decodeEvent_eq_none_iff_afterPrefix (frame : List UInt8) :
    decodeEvent frame = none ↔
      (∀ tag ∈ ["U,", "SUBOK,", "CONOK,", "CONERR,", "REQERR,"], afterPrefix frame tag = none) ∧
        ¬ (frame = ascii "LOOP" ∨ (ascii "LOOP,").isPrefixOf frame) := by
  unfold decodeEvent
  dsimp only
  rw [Option.map_eq_none_iff]
  repeat' split
  all_goals simp_all

/-- A frame is no event exactly when it starts with no kind's tag and is not a bare `LOOP`. -/
theorem decodeEvent_eq_none_iff (frame : List UInt8) :
    decodeEvent frame = none ↔
      (∀ tag ∈ ["U,", "SUBOK,", "CONOK,", "CONERR,", "REQERR,", "LOOP,"],
        ¬ Utf8.ofString tag <+: frame) ∧ frame ≠ Utf8.ofString "LOOP" := by
  -- the tags are ASCII, so the code's byte view of each is its UTF-8 encoding
  have htags : ∀ tag ∈ ["U,", "SUBOK,", "CONOK,", "CONERR,", "REQERR,", "LOOP,", "LOOP"],
      ascii tag = Utf8.ofString tag := by decide
  simp only [List.forall_mem_cons, List.not_mem_nil, IsEmpty.forall_iff, implies_true, and_true] at htags
  simp only [decodeEvent_eq_none_iff_afterPrefix, List.forall_mem_cons, List.not_mem_nil,
    IsEmpty.forall_iff, implies_true, afterPrefix_eq_none_iff, List.isPrefixOf_iff_prefix,
    htags, not_or, and_assoc, ne_eq, and_comm, and_left_comm, true_and]

/-- Every `LOOP` frame asks for a rebind, whatever follows its comma. -/
theorem decodeEvent_of_loop {frame : List UInt8}
    (h : frame = Utf8.ofString "LOOP" ∨ Utf8.ofString "LOOP," <+: frame) :
    decodeEvent frame = some .rebind := by
  rcases h with rfl | ⟨rest, rfl⟩
  · rfl
  · rfl

/-! ## Frames of each kind

After its tag, a frame goes to its kind's reader; a fault of the reader is a parse error that
shows the frame. -/

theorem decodeEvent_update_after_tag (rest : List UInt8) :
    decodeEvent (Utf8.ofString "U," ++ rest) = some (match update rest with
      | .ok e => e
      | .error cause => .parseError cause (Utf8.toStringLossy (Utf8.ofString "U," ++ rest))) := rfl

theorem decodeEvent_subscribeOk_after_tag (rest : List UInt8) {e : Event} (h : subscribeOk rest = .ok e) :
    decodeEvent (Utf8.ofString "SUBOK," ++ rest) = some e := by
  show some (match subscribeOk rest with | .ok e => e | .error _ => _) = _
  rw [h]

theorem decodeEvent_sessionOk_after_tag (rest : List UInt8) {e : Event} (h : sessionOk rest = .ok e) :
    decodeEvent (Utf8.ofString "CONOK," ++ rest) = some e := by
  show some (match sessionOk rest with | .ok e => e | .error _ => _) = _
  rw [h]

theorem decodeEvent_sessionError_after_tag (rest : List UInt8) {e : Event}
    (h : sessionError rest = .ok e) : decodeEvent (Utf8.ofString "CONERR," ++ rest) = some e := by
  show some (match sessionError rest with | .ok e => e | .error _ => _) = _
  rw [h]

theorem decodeEvent_requestError_after_tag (rest : List UInt8) {e : Event}
    (h : requestError rest = .ok e) : decodeEvent (Utf8.ofString "REQERR," ++ rest) = some e := by
  show some (match requestError rest with | .ok e => e | .error _ => _) = _
  rw [h]

section Frames

variable {s : String} (hs : ',' ∉ s.toList)
include hs

theorem decodeEvent_update_frame {item : Nat} (hitem : item < Nat.pow 2 32) {payload : List UInt8}
    {values : List FieldValue} (h : decodeFields payload = .ok values) :
    decodeEvent (Utf8.ofString ("U," ++ s ++ "," ++ Numeral.natText item ++ ",") ++ payload) =
      some (.update s item values) := by
  have hread := update_eq hs hitem payload
  simp only [Utf8.ofString_append, List.append_assoc] at hread ⊢
  rw [decodeEvent_update_after_tag, hread, h]
  rfl

theorem decodeEvent_update_frame_error {item : Nat} (hitem : item < Nat.pow 2 32)
    {payload : List UInt8} {cause : DecodeError} (h : decodeFields payload = .error cause) :
    decodeEvent (Utf8.ofString ("U," ++ s ++ "," ++ Numeral.natText item ++ ",") ++ payload) =
      some (.parseError cause (Utf8.toStringLossy
        (Utf8.ofString ("U," ++ s ++ "," ++ Numeral.natText item ++ ",") ++ payload))) := by
  have hread := update_eq hs hitem payload
  simp only [Utf8.ofString_append, List.append_assoc] at hread ⊢
  rw [decodeEvent_update_after_tag, hread, h]
  rfl

theorem decodeEvent_subscribeOk_frame {totalItems totalFields : Int}
    (hi₁ : -(Nat.pow 2 31 : Int) ≤ totalItems) (hi₂ : totalItems < Nat.pow 2 31)
    (hf₁ : -(Nat.pow 2 31 : Int) ≤ totalFields) (hf₂ : totalFields < Nat.pow 2 31) :
    decodeEvent (Utf8.ofString ("SUBOK," ++ s ++ "," ++ Numeral.intText totalItems ++ "," ++
      Numeral.intText totalFields)) = some (.subscribeOk s totalItems totalFields) := by
  have hread := subscribeOk_eq hs hi₁ hi₂ hf₁ hf₂
  simp only [Utf8.ofString_append, List.append_assoc] at hread ⊢
  exact decodeEvent_subscribeOk_after_tag _ hread

theorem decodeEvent_sessionOk_frame {limit keepalive : Nat} (hl : limit < Nat.pow 2 64)
    (hk : keepalive < Nat.pow 2 64) (link : String) :
    decodeEvent (Utf8.ofString ("CONOK," ++ s ++ "," ++ Numeral.natText limit ++ "," ++
      Numeral.natText keepalive ++ "," ++ link)) =
      some (.sessionOk s limit keepalive (if link = "*" then none else some link)) := by
  have hread := sessionOk_eq hs hl hk link
  simp only [Utf8.ofString_append, List.append_assoc] at hread ⊢
  exact decodeEvent_sessionOk_after_tag _ hread

theorem decodeEvent_requestError_frame {code : Int} (hc₁ : -(Nat.pow 2 31 : Int) ≤ code)
    (hc₂ : code < Nat.pow 2 31) (message : String) :
    decodeEvent (Utf8.ofString ("REQERR," ++ s ++ "," ++ Numeral.intText code ++ "," ++ message)) =
      some (.requestError s code message) := by
  have hread := requestError_eq hs hc₁ hc₂ message
  simp only [Utf8.ofString_append, List.append_assoc] at hread ⊢
  exact decodeEvent_requestError_after_tag _ hread

end Frames

theorem decodeEvent_sessionError_frame {code : Int} (hc₁ : -(Nat.pow 2 31 : Int) ≤ code)
    (hc₂ : code < Nat.pow 2 31) (message : String) :
    decodeEvent (Utf8.ofString ("CONERR," ++ Numeral.intText code ++ "," ++ message)) =
      some (.sessionError code message) := by
  have hread := sessionError_eq hc₁ hc₂ message
  simp only [Utf8.ofString_append, List.append_assoc] at hread ⊢
  exact decodeEvent_sessionError_after_tag _ hread

/-- The decoder tells the frames of no kind from the rest, and reads every frame the server
writes back into the event it was written from: ids without commas, numbers in the ranges of
their fields, and a last field (payload, message or link) that may hold commas. -/
theorem decodeEvent_reads_server_frames :
    (∀ frame, decodeEvent frame = none ↔
      (∀ tag ∈ ["U,", "SUBOK,", "CONOK,", "CONERR,", "REQERR,", "LOOP,"],
        ¬ Utf8.ofString tag <+: frame) ∧ frame ≠ Utf8.ofString "LOOP") ∧
    (∀ frame, frame = Utf8.ofString "LOOP" ∨ Utf8.ofString "LOOP," <+: frame →
      decodeEvent frame = some .rebind) ∧
    (∀ s item payload values, ',' ∉ s.toList → item < Nat.pow 2 32 →
      decodeFields payload = .ok values →
      decodeEvent (Utf8.ofString ("U," ++ s ++ "," ++ Numeral.natText item ++ ",") ++ payload) =
        some (.update s item values)) ∧
    (∀ s item payload cause, ',' ∉ s.toList → item < Nat.pow 2 32 →
      decodeFields payload = .error cause →
      decodeEvent (Utf8.ofString ("U," ++ s ++ "," ++ Numeral.natText item ++ ",") ++ payload) =
        some (.parseError cause (Utf8.toStringLossy
          (Utf8.ofString ("U," ++ s ++ "," ++ Numeral.natText item ++ ",") ++ payload)))) ∧
    (∀ s (totalItems totalFields : Int), ',' ∉ s.toList →
      -(Nat.pow 2 31 : Int) ≤ totalItems → totalItems < Nat.pow 2 31 →
      -(Nat.pow 2 31 : Int) ≤ totalFields → totalFields < Nat.pow 2 31 →
      decodeEvent (Utf8.ofString ("SUBOK," ++ s ++ "," ++ Numeral.intText totalItems ++ "," ++
        Numeral.intText totalFields)) = some (.subscribeOk s totalItems totalFields)) ∧
    (∀ s limit keepalive link, ',' ∉ s.toList → limit < Nat.pow 2 64 → keepalive < Nat.pow 2 64 →
      decodeEvent (Utf8.ofString ("CONOK," ++ s ++ "," ++ Numeral.natText limit ++ "," ++
        Numeral.natText keepalive ++ "," ++ link)) =
        some (.sessionOk s limit keepalive (if link = "*" then none else some link))) ∧
    (∀ (code : Int) message, -(Nat.pow 2 31 : Int) ≤ code → code < Nat.pow 2 31 →
      decodeEvent (Utf8.ofString ("CONERR," ++ Numeral.intText code ++ "," ++ message)) =
        some (.sessionError code message)) ∧
    (∀ s (code : Int) message, ',' ∉ s.toList → -(Nat.pow 2 31 : Int) ≤ code →
      code < Nat.pow 2 31 →
      decodeEvent (Utf8.ofString ("REQERR," ++ s ++ "," ++ Numeral.intText code ++ "," ++
        message)) = some (.requestError s code message)) :=
  ⟨decodeEvent_eq_none_iff, fun _ h => decodeEvent_of_loop h,
    fun _ _ _ _ hs hitem h => decodeEvent_update_frame hs hitem h,
    fun _ _ _ _ hs hitem h => decodeEvent_update_frame_error hs hitem h,
    fun _ _ _ hs hi₁ hi₂ hf₁ hf₂ => decodeEvent_subscribeOk_frame hs hi₁ hi₂ hf₁ hf₂,
    fun _ _ _ link hs hl hk => decodeEvent_sessionOk_frame hs hl hk link,
    fun _ message hc₁ hc₂ => decodeEvent_sessionError_frame hc₁ hc₂ message,
    fun _ _ message hs hc₁ hc₂ => decodeEvent_requestError_frame hs hc₁ hc₂ message⟩


theorem decodeEvent_reads_sample_frames :
    decodeEvent (Utf8.ofString "LOOP,5000") = some .rebind ∧
    decodeEvent (Utf8.ofString "U,1,3,") = some (.update "1" 3 [.unchanged]) ∧
    decodeEvent (Utf8.ofString "U,1,3,%") =
      some (.parseError (.truncatedEscape 0) (Utf8.toStringLossy (Utf8.ofString "U,1,3,%"))) ∧
    decodeEvent (Utf8.ofString "SUBOK,1,-2,7") = some (.subscribeOk "1" (-2) 7) ∧
    decodeEvent (Utf8.ofString "CONOK,S1,50,5000,*") = some (.sessionOk "S1" 50 5000 none) ∧
    decodeEvent (Utf8.ofString "CONERR,4,bad, really") = some (.sessionError 4 "bad, really") ∧
    decodeEvent (Utf8.ofString "REQERR,9,-3,x,y") = some (.requestError "9" (-3) "x,y") := by
  obtain ⟨-, hloop, hupdate, hparse, hsubscribe, hsession, hrefused, hrequest⟩ :=
    decodeEvent_reads_server_frames
  refine ⟨hloop _ (.inr ⟨Utf8.ofString "5000", rfl⟩), ?_, ?_, ?_, ?_, ?_, ?_⟩
  · rw [show Utf8.ofString "U,1,3," = Utf8.ofString ("U," ++ "1" ++ "," ++ Numeral.natText 3 ++ ",") ++ []
      by decide]
    exact hupdate "1" 3 [] [.unchanged] (by simp) (by decide) rfl
  · rw [show Utf8.ofString "U,1,3,%" = Utf8.ofString ("U," ++ "1" ++ "," ++ Numeral.natText 3 ++ ",") ++
      [0x25] by decide]
    exact hparse "1" 3 [0x25] (.truncatedEscape 0) (by simp) (by decide) rfl
  · rw [show "SUBOK,1,-2,7" = "SUBOK," ++ "1" ++ "," ++ Numeral.intText (-2) ++ "," ++
      Numeral.intText 7 by decide]
    exact hsubscribe "1" (-2) 7 (by simp) (by decide) (by decide) (by decide) (by decide)
  · rw [show "CONOK,S1,50,5000,*" = "CONOK," ++ "S1" ++ "," ++ Numeral.natText 50 ++ "," ++
      Numeral.natText 5000 ++ "," ++ "*" by decide]
    exact hsession "S1" 50 5000 "*" (by simp) (by decide) (by decide)
  · rw [show "CONERR,4,bad, really" = "CONERR," ++ Numeral.intText 4 ++ "," ++ "bad, really" by
      decide]
    exact hrefused 4 "bad, really" (by decide) (by decide)
  · rw [show "REQERR,9,-3,x,y" = "REQERR," ++ "9" ++ "," ++ Numeral.intText (-3) ++ "," ++ "x,y" by
      decide]
    exact hrequest "9" (-3) "x,y" (by simp) (by decide) (by decide)

end TlcpLoad
