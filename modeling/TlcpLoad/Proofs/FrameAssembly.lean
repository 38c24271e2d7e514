import Mathlib
import TlcpLoad.Session.Basic

/-! # Frame assembly

The frames of a stream are its CR LF split: `splitFrames` cuts a byte list at each CR LF
from the left, drops the terminators and keeps the unterminated tail apart. `splitFrames_eq_iff`
says this without the search: a split is a list of frames free of CR LF, each followed by its
terminator, and a tail free of CR LF, and a byte list has exactly one.

The assembler hands out exactly these frames, whatever the chunk boundaries are and however
many frames the caller takes after each push. Its `scanned` offset only saves work: the offsets
before it hold no CR LF start (`Assembler.Scanned`), so a search from there finds what a search
from the start would. -/

namespace TlcpLoad

/-! ## Where CR LF pairs start -/

/-- A CR LF pair starts at offset `i`. -/
def CrLfAt (bs : List UInt8) (i : Nat) : Prop :=
  bs[i]? = some 13 ∧ bs[i + 1]? = some 10

/-- No CR LF pair starts anywhere in a byte list. -/
def NoCrLf (bs : List UInt8) : Prop :=
  ∀ i, ¬ CrLfAt bs i

@[simp] theorem crLfAt_cons_succ {b : UInt8} {bs : List UInt8} {i : Nat} :
    CrLfAt (b :: bs) (i + 1) ↔ CrLfAt bs i := by
  simp [CrLfAt]

theorem crLfAt_zero {a b : UInt8} {rest : List UInt8} :
    CrLfAt (a :: b :: rest) 0 ↔ a = 13 ∧ b = 10 := by
  simp [CrLfAt]

theorem not_crLfAt_of_length_le {bs : List UInt8} {i : Nat} (h : bs.length ≤ i + 1) :
    ¬ CrLfAt bs i := by
  intro hi
  have := hi.2
  rw [List.getElem?_eq_none (by omega)] at this
  cases this

/-- A pair that starts before the last byte of `a` is read in `a` alone. -/
theorem crLfAt_append_of_lt {a b : List UInt8} {i : Nat} (h : i + 1 < a.length) :
    CrLfAt (a ++ b) i ↔ CrLfAt a i := by
  simp only [CrLfAt, List.getElem?_append_left h,
    List.getElem?_append_left (by omega : i < a.length)]

theorem crLfAt_drop {bs : List UInt8} {s j : Nat} :
    CrLfAt (bs.drop s) j ↔ CrLfAt bs (s + j) := by
  simp only [CrLfAt, List.getElem?_drop, Nat.add_assoc]

theorem findCrLf_eq_some_iff {bs : List UInt8} {p : Nat} :
    findCrLf bs = some p ↔ CrLfAt bs p ∧ ∀ i < p, ¬ CrLfAt bs i := by
  fun_induction findCrLf bs generalizing p with
  | case1 => simp [CrLfAt]
  | case2 b => simp [CrLfAt]
  | case3 a b rest hab =>
    have h0 : CrLfAt (a :: b :: rest) 0 := crLfAt_zero.2 hab
    constructor
    · rintro ⟨⟩
      exact ⟨h0, fun i hi => absurd hi (Nat.not_lt_zero i)⟩
    · rintro ⟨-, hfirst⟩
      cases p with
      | zero => rfl
      | succ p => exact absurd h0 (hfirst 0 (Nat.succ_pos p))
  | case4 a b rest hab ih =>
    cases p with
    | zero =>
      simp only [Option.map_eq_some_iff, crLfAt_zero]
      constructor
      · rintro ⟨q, -, hq⟩
        omega
      · rintro ⟨h, -⟩
        exact absurd h hab
    | succ p =>
      rw [Option.map_eq_some_iff]
      constructor
      · rintro ⟨q, hq, hqp⟩
        obtain rfl : q = p := by omega
        obtain ⟨hp, hfirst⟩ := ih.1 hq
        refine ⟨crLfAt_cons_succ.2 hp, fun i hi => ?_⟩
        cases i with
        | zero => exact fun h => hab (crLfAt_zero.1 h)
        | succ i => exact fun h => hfirst i (by omega) (crLfAt_cons_succ.1 h)
      · rintro ⟨hp, hfirst⟩
        refine ⟨p, ih.2 ⟨crLfAt_cons_succ.1 hp, fun i hi h => ?_⟩, rfl⟩
        exact hfirst (i + 1) (by omega) (crLfAt_cons_succ.2 h)

theorem findCrLf_eq_none_iff {bs : List UInt8} : findCrLf bs = none ↔ NoCrLf bs := by
  fun_induction findCrLf bs with
  | case1 => exact iff_of_true rfl fun i => not_crLfAt_of_length_le (by simp)
  | case2 b => exact iff_of_true rfl fun i => not_crLfAt_of_length_le (by simp)
  | case3 a b rest hab => exact iff_of_false (by simp) fun h => h 0 (crLfAt_zero.2 hab)
  | case4 a b rest hab ih =>
    rw [Option.map_eq_none_iff, ih]
    constructor
    · intro h i
      cases i with
      | zero => exact fun h0 => hab (crLfAt_zero.1 h0)
      | succ i => exact fun hi => h i (crLfAt_cons_succ.1 hi)
    · exact fun h i hi => h (i + 1) (crLfAt_cons_succ.2 hi)

/-- A search that skips offsets known to hold no pair start finds the same pair. -/
theorem findCrLf_drop {bs : List UInt8} {s : Nat} (hs : ∀ i < s, ¬ CrLfAt bs i) :
    (findCrLf (bs.drop s)).map (s + ·) = findCrLf bs := by
  cases hf : findCrLf (bs.drop s) with
  | some p =>
    obtain ⟨hp, hfirst⟩ := findCrLf_eq_some_iff.1 hf
    refine (findCrLf_eq_some_iff.2 ⟨crLfAt_drop.1 hp, fun i hi => ?_⟩).symm
    by_cases his : i < s
    · exact hs i his
    · have := hfirst (i - s) (by omega)
      rwa [crLfAt_drop, Nat.add_sub_cancel' (by omega)] at this
  | none =>
    have hnone := findCrLf_eq_none_iff.1 hf
    refine (findCrLf_eq_none_iff.2 fun i => ?_).symm
    by_cases his : i < s
    · exact hs i his
    · have := hnone (i - s)
      rwa [crLfAt_drop, Nat.add_sub_cancel' (by omega)] at this

theorem findCrLf_bound {bs : List UInt8} {p : Nat} (h : findCrLf bs = some p) :
    p + 2 ≤ bs.length := by
  have hp := (findCrLf_eq_some_iff.1 h).1
  cases Nat.lt_or_ge bs.length (p + 2) with
  | inl hlt => exact absurd hp (not_crLfAt_of_length_le (by omega))
  | inr hge => exact hge

/-! ## The CR LF split -/

theorem crLfAt_take {bs : List UInt8} {p i : Nat} :
    CrLfAt (bs.take p) i ↔ CrLfAt bs i ∧ i + 1 < p := by
  by_cases hi : i + 1 < p
  · simp [CrLfAt, hi, show i < p by omega]
  · simp [CrLfAt, List.getElem?_take, hi]

/-- A byte list cut around the CR LF pair at `p`. -/
theorem take_append_crLf_drop {bs : List UInt8} {p : Nat} (h : CrLfAt bs p) :
    bs.take p ++ 13 :: 10 :: bs.drop (p + 2) = bs := by
  have hlen : p + 1 < bs.length := by
    cases Nat.lt_or_ge (p + 1) bs.length with
    | inl hlt => exact hlt
    | inr hge => exact absurd h (not_crLfAt_of_length_le hge)
  obtain ⟨h13, h10⟩ := h
  rw [List.getElem?_eq_getElem (by omega), Option.some_inj] at h13 h10
  calc bs.take p ++ 13 :: 10 :: bs.drop (p + 2)
      = bs.take p ++ bs.drop p := by
        rw [List.drop_eq_getElem_cons (by omega : p < bs.length),
          List.drop_eq_getElem_cons (by omega : p + 1 < bs.length), h13, h10]
    _ = bs := List.take_append_drop p bs

/-- Any fuel at least the length of the bytes gives the same split. -/
theorem splitFrames_go_congr {n m : Nat} {bs : List UInt8} (hn : bs.length ≤ n)
    (hm : bs.length ≤ m) : splitFrames.go n bs = splitFrames.go m bs := by
  induction n generalizing m bs with
  | zero =>
    obtain rfl : bs = [] := List.eq_nil_of_length_eq_zero (by omega)
    cases m <;> rfl
  | succ n ih =>
    cases m with
    | zero =>
      obtain rfl : bs = [] := List.eq_nil_of_length_eq_zero (by omega)
      rfl
    | succ m =>
      simp only [splitFrames.go]
      cases hf : findCrLf bs with
      | none => rfl
      | some p =>
        have := findCrLf_bound hf
        simp only
        rw [@ih m (bs.drop (p + 2)) (by simp; omega) (by simp; omega)]

theorem splitFrames_go_of_le {n : Nat} {bs : List UInt8} (h : bs.length ≤ n) :
    splitFrames.go n bs = splitFrames bs :=
  splitFrames_go_congr h (Nat.le_refl _)

theorem splitFrames_of_findCrLf_none {bs : List UInt8} (h : findCrLf bs = none) :
    splitFrames bs = ([], bs) := by
  cases bs with
  | nil => rfl
  | cons b bs => simp [splitFrames, splitFrames.go, h]

theorem splitFrames_of_findCrLf_some {bs : List UInt8} {p : Nat} (h : findCrLf bs = some p) :
    splitFrames bs =
      (bs.take p :: (splitFrames (bs.drop (p + 2))).1, (splitFrames (bs.drop (p + 2))).2) := by
  have hb := findCrLf_bound h
  obtain ⟨n, hn⟩ : ∃ n, bs.length = n + 1 := ⟨bs.length - 1, by omega⟩
  rw [splitFrames, hn, splitFrames.go, h]
  simp only
  rw [splitFrames_go_of_le (by simp; omega)]

/-- What `splitFrames` gives: frames free of CR LF, each followed by its CR LF, and then a
    tail free of CR LF, which together make up the bytes. -/
theorem splitFrames_spec (bs : List UInt8) :
    bs = (splitFrames bs).1.flatMap (· ++ [13, 10]) ++ (splitFrames bs).2 ∧
      (∀ f ∈ (splitFrames bs).1, NoCrLf f) ∧ NoCrLf (splitFrames bs).2 := by
  cases hf : findCrLf bs with
  | none =>
    rw [splitFrames_of_findCrLf_none hf]
    exact ⟨by simp, by simp, findCrLf_eq_none_iff.1 hf⟩
  | some p =>
    have hb := findCrLf_bound hf
    obtain ⟨hp, hfirst⟩ := findCrLf_eq_some_iff.1 hf
    obtain ⟨hcat, hframes, htail⟩ := splitFrames_spec (bs.drop (p + 2))
    rw [splitFrames_of_findCrLf_some hf]
    dsimp only
    refine ⟨?_, ?_, htail⟩
    · -- the first frame and its terminator, then the split of the rest
      calc bs = bs.take p ++ 13 :: 10 :: bs.drop (p + 2) := (take_append_crLf_drop hp).symm
        _ = bs.take p ++ 13 :: 10 :: ((splitFrames (bs.drop (p + 2))).1.flatMap (· ++ [13, 10]) ++
              (splitFrames (bs.drop (p + 2))).2) := by rw [← hcat]
        _ = _ := by simp
    · intro f hf'
      rcases List.mem_cons.1 hf' with rfl | hmem
      · intro i hi
        obtain ⟨hi, hlt⟩ := crLfAt_take.1 hi
        exact hfirst i (by omega) hi
      · exact hframes f hmem
termination_by bs.length
decreasing_by
  have := findCrLf_bound hf
  simp only [List.length_drop]
  omega

/-- A frame free of CR LF, then CR LF: the split starts with that frame. -/
theorem splitFrames_frame_append {f : List UInt8} (hf : NoCrLf f) (rest : List UInt8) :
    splitFrames (f ++ 13 :: 10 :: rest) = (f :: (splitFrames rest).1, (splitFrames rest).2) := by
  have hfind : findCrLf (f ++ 13 :: 10 :: rest) = some f.length := by
    refine findCrLf_eq_some_iff.2 ⟨?_, fun i hi h => ?_⟩
    · simp [CrLfAt]
    · by_cases hlast : i + 1 < f.length
      · exact hf i ((crLfAt_append_of_lt hlast).1 h)
      · -- the pair would end on the terminator's CR
        have h10 := h.2
        rw [List.getElem?_append_right (by omega), show i + 1 - f.length = 0 by omega] at h10
        cases h10
  have hdrop : f.drop (f.length + 2) = [] := List.drop_of_length_le (by omega)
  rw [splitFrames_of_findCrLf_some hfind, List.take_left' rfl]
  simp [List.drop_append, hdrop]

/-- The split is the only way to write the bytes as frames free of CR LF, each followed by
    CR LF, and a tail free of CR LF. -/
theorem splitFrames_eq_iff {bs t : List UInt8} {fs : List (List UInt8)} :
    splitFrames bs = (fs, t) ↔
      bs = fs.flatMap (· ++ [13, 10]) ++ t ∧ (∀ f ∈ fs, NoCrLf f) ∧ NoCrLf t := by
  constructor
  · intro h
    have := splitFrames_spec bs
    rw [h] at this
    exact this
  · rintro ⟨rfl, hfs, ht⟩
    induction fs with
    | nil => simpa using splitFrames_of_findCrLf_none (findCrLf_eq_none_iff.2 ht)
    | cons f fs ih =>
      have hf := splitFrames_frame_append (hfs f List.mem_cons_self)
        (fs.flatMap (· ++ [13, 10]) ++ t)
      simp only [List.flatMap_cons, List.append_assoc, List.cons_append, List.nil_append] at hf ⊢
      rw [hf, ih fun g hg => hfs g (List.mem_cons_of_mem f hg)]

/-- Bytes added to a stream leave its frames in place: the new frames are those of its tail
    followed by the new bytes. -/
theorem splitFrames_append (bs c : List UInt8) :
    splitFrames (bs ++ c) =
      ((splitFrames bs).1 ++ (splitFrames ((splitFrames bs).2 ++ c)).1,
        (splitFrames ((splitFrames bs).2 ++ c)).2) := by
  have hbs := splitFrames_spec bs
  generalize splitFrames bs = s at hbs ⊢
  obtain ⟨fs, t⟩ := s
  obtain ⟨rfl, hfs, -⟩ := hbs
  have htc := splitFrames_spec (t ++ c)
  generalize splitFrames (t ++ c) = u at htc ⊢
  obtain ⟨gs, t'⟩ := u
  obtain ⟨hcat, hgs, ht'⟩ := htc
  refine splitFrames_eq_iff.2 ⟨?_, ?_, ht'⟩
  · rw [List.flatMap_append, List.append_assoc, List.append_assoc, ← hcat]
  · intro f hf
    rcases List.mem_append.1 hf with h | h
    · exact hfs f h
    · exact hgs f h

/-- Dropping the bytes of the first frames, terminators included, leaves the other frames
    and the same tail. -/
theorem splitFrames_drop {bs : List UInt8} {taken : List (List UInt8)}
    (h : taken <+: (splitFrames bs).1) :
    splitFrames (bs.drop (taken.flatMap (· ++ [13, 10])).length) =
      ((splitFrames bs).1.drop taken.length, (splitFrames bs).2) := by
  obtain ⟨rest, hrest⟩ := h
  have hbs := splitFrames_spec bs
  rw [← hrest] at hbs ⊢
  obtain ⟨hcat, hfs, ht⟩ := hbs
  rw [List.drop_left]
  refine splitFrames_eq_iff.2 ⟨?_, fun f hf => hfs f (List.mem_append_right taken hf), ht⟩
  conv => lhs; rw [hcat]
  rw [List.flatMap_append, List.append_assoc, List.drop_left]

/-- The bytes frames take in the stream, each with its CR LF. -/
theorem length_flatMap_crLf (fs : List (List UInt8)) :
    (fs.flatMap (· ++ [13, 10])).length = (fs.map (·.length + 2)).sum := by
  simp [List.length_flatMap]

/-- Each frame takes at least its two terminator bytes. -/
theorem length_splitFrames_le (bs : List UInt8) : (splitFrames bs).1.length ≤ bs.length := by
  obtain ⟨hcat, -, -⟩ := splitFrames_spec bs
  have hlen := congrArg List.length hcat
  rw [List.length_append, length_flatMap_crLf] at hlen
  have hsum : ∀ fs : List (List UInt8), fs.length ≤ (fs.map (·.length + 2)).sum := by
    intro fs
    induction fs with
    | nil => simp
    | cons f fs ih =>
      simp only [List.length_cons, List.map_cons, List.sum_cons]
      omega
  have := hsum (splitFrames bs).1
  omega

/-- At most `limit` elements from the front of a list; all of them when there is no limit. -/
def takeAtMost {α : Type} (limit : Option Nat) (l : List α) : List α :=
  match limit with
  | some n => l.take n
  | none => l

theorem takeAtMost_isPrefix {α : Type} (limit : Option Nat) (l : List α) :
    takeAtMost limit l <+: l := by
  cases limit with
  | some n => exact List.take_prefix n l
  | none => exact List.prefix_refl l

/-! ## The assembler -/

namespace Assembler

/-- What the assembler keeps true of `scanned`: it stays short of the last buffered byte, and
    no CR LF pair starts before it. -/
structure Scanned (a : Assembler) : Prop where
  le : a.scanned ≤ a.buffer.length - 1
  clear : ∀ i < a.scanned, ¬ CrLfAt a.buffer i

theorem scanned_empty : ({} : Assembler).Scanned :=
  ⟨Nat.zero_le _, fun _ h => absurd h (Nat.not_lt_zero _)⟩

/-- A chunk only adds bytes after the last one, so no pair can start before `scanned`. -/
theorem Scanned.push {a : Assembler} (h : a.Scanned) (chunk : List UInt8) :
    (a.push chunk).Scanned where
  le := by
    have := h.le
    simp only [Assembler.push, List.length_append]
    omega
  clear i hi := by
    have := h.le
    simp only [Assembler.push] at hi ⊢
    rw [crLfAt_append_of_lt (by omega)]
    exact h.clear i hi

/-- Under `Scanned`, the search from `scanned` finds the first pair of the whole buffer. -/
theorem next_eq {a : Assembler} (h : a.Scanned) :
    a.next = match findCrLf a.buffer with
      | some pos => (some (a.buffer.take pos), { buffer := a.buffer.drop (pos + 2), scanned := 0 })
      | none => (none, { a with scanned := a.buffer.length - 1 }) := by
  have hfind := findCrLf_drop h.clear
  unfold next
  cases hd : findCrLf (a.buffer.drop a.scanned) with
  | some off =>
    rw [hd, Option.map_some] at hfind
    rw [← hfind, Nat.add_comm]
  | none =>
    rw [hd, Option.map_none] at hfind
    rw [← hfind]

/-- The next frame handed out is the first frame of the buffer. -/
theorem next_of_frames_cons {a : Assembler} (h : a.Scanned) {f : List UInt8}
    {fs : List (List UInt8)} (hf : (splitFrames a.buffer).1 = f :: fs) :
    a.next = (some f, { buffer := a.buffer.drop (f.length + 2), scanned := 0 }) := by
  rw [next_eq h]
  cases hfind : findCrLf a.buffer with
  | none =>
    rw [splitFrames_of_findCrLf_none hfind] at hf
    cases hf
  | some p =>
    have hb := findCrLf_bound hfind
    rw [splitFrames_of_findCrLf_some hfind] at hf
    obtain ⟨rfl, -⟩ := List.cons.inj hf
    simp only [List.length_take]
    rw [Nat.min_eq_left (by omega)]

/-- With no complete frame buffered, nothing is handed out, and the whole buffer but its last
    byte is known to hold no pair start. -/
theorem next_of_frames_nil {a : Assembler} (h : a.Scanned) (hf : (splitFrames a.buffer).1 = []) :
    a.next = (none, { a with scanned := a.buffer.length - 1 }) := by
  rw [next_eq h]
  cases hfind : findCrLf a.buffer with
  | none => rfl
  | some p =>
    rw [splitFrames_of_findCrLf_some hfind] at hf
    cases hf

/-- After a frame is handed out the search starts again at the front. -/
theorem scanned_of_zero (buffer : List UInt8) : ({ buffer, scanned := 0 } : Assembler).Scanned :=
  ⟨Nat.zero_le _, fun _ h => absurd h (Nat.not_lt_zero _)⟩

/-- After a miss the buffer holds no pair start at all. -/
theorem scanned_of_frames_nil {a : Assembler} (hf : (splitFrames a.buffer).1 = []) :
    ({ a with scanned := a.buffer.length - 1 } : Assembler).Scanned := by
  have hnone : findCrLf a.buffer = none := by
    cases hfind : findCrLf a.buffer with
    | none => rfl
    | some p =>
      rw [splitFrames_of_findCrLf_some hfind] at hf
      cases hf
  exact ⟨Nat.le_refl _, fun i _ => findCrLf_eq_none_iff.1 hnone i⟩

/-- Taking with enough fuel hands out the first `n` frames of the buffer and drops their
    bytes. The fuel only has to exceed the number of complete frames. -/
theorem take_go {fuel n : Nat} {a : Assembler} (h : a.Scanned)
    (hfuel : (splitFrames a.buffer).1.length < fuel) :
    (take.go fuel a n).1 = (splitFrames a.buffer).1.take n ∧ (take.go fuel a n).2.Scanned ∧
      (take.go fuel a n).2.buffer =
        a.buffer.drop (((splitFrames a.buffer).1.take n).flatMap (· ++ [13, 10])).length := by
  induction fuel generalizing a n with
  | zero => exact absurd hfuel (Nat.not_lt_zero _)
  | succ fuel ih =>
    cases n with
    | zero => simp [take.go, h]
    | succ n =>
      cases hF : (splitFrames a.buffer).1 with
      | nil =>
        simp only [take.go, next_of_frames_nil h hF]
        exact ⟨rfl, scanned_of_frames_nil hF, by simp⟩
      | cons f fs =>
        -- the first frame goes out, and the rest of the buffer splits into the others
        have hsplit : (splitFrames (a.buffer.drop (f.length + 2))).1 = fs := by
          have hdrop := @splitFrames_drop a.buffer [f] (by rw [hF]; exact ⟨fs, rfl⟩)
          simpa [hF] using congrArg Prod.fst hdrop
        have hlt : (splitFrames (a.buffer.drop (f.length + 2))).1.length < fuel := by
          rw [hsplit]
          rw [hF, List.length_cons] at hfuel
          omega
        obtain ⟨h1, h2, h3⟩ := @ih n _ (scanned_of_zero _) hlt
        simp only [take.go, next_of_frames_cons h hF]
        cases hgo : take.go fuel { buffer := a.buffer.drop (f.length + 2), scanned := 0 } n with
        | mk frames a'' =>
          rw [hgo] at h1 h2 h3
          dsimp only at h1 h2 h3 ⊢
          rw [hsplit] at h1 h3
          refine ⟨by rw [h1, List.take_succ_cons], h2, ?_⟩
          rw [h3, List.drop_drop, List.take_succ_cons, List.flatMap_cons, List.length_append]
          simp only [List.length_append, List.length_cons, List.length_nil]

/-- Taking frames hands out the first ones of the buffer, up to the limit, and drops their
    bytes, terminators included. -/
theorem take_spec {a : Assembler} (h : a.Scanned) (limit : Option Nat) :
    (a.take limit).1 = takeAtMost limit (splitFrames a.buffer).1 ∧ (a.take limit).2.Scanned ∧
      (a.take limit).2.buffer =
        a.buffer.drop ((a.take limit).1.flatMap (· ++ [13, 10])).length := by
  have hlen := length_splitFrames_le a.buffer
  show (take.go _ a _).1 = _ ∧ (take.go _ a _).2.Scanned ∧ (take.go _ a _).2.buffer = _
  obtain ⟨h1, h2, h3⟩ :=
    @take_go (a.buffer.length + 1) (limit.getD (a.buffer.length + 1)) a h (by omega)
  have hlimit : (splitFrames a.buffer).1.take (limit.getD (a.buffer.length + 1)) =
      takeAtMost limit (splitFrames a.buffer).1 := by
    cases limit with
    | some n => rfl
    | none => exact List.take_of_length_le (by simp; omega)
  rw [hlimit] at h1 h3
  exact ⟨h1, h2, by rw [h3, ← h1]; rfl⟩

/-! ## Runs of pushes and takes -/

/-- The assembler after the stream `P` was pushed and the frames `taken` were handed out:
    these are the first frames of `P`, and the buffer holds the rest of `P`. -/
structure Holds (a : Assembler) (P : List UInt8) (taken : List (List UInt8)) : Prop where
  scanned : a.Scanned
  isPrefix : taken <+: (splitFrames P).1
  buffer : a.buffer = P.drop (taken.flatMap (· ++ [13, 10])).length

theorem holds_empty : Holds {} [] [] :=
  ⟨scanned_empty, List.nil_prefix, rfl⟩

/-- The buffer splits into the frames not handed out yet. -/
theorem Holds.frames {a : Assembler} {P : List UInt8} {taken : List (List UInt8)}
    (h : Holds a P taken) : (splitFrames a.buffer).1 = (splitFrames P).1.drop taken.length := by
  rw [h.buffer, splitFrames_drop h.isPrefix]

/-- The frames handed out lie within the stream. -/
theorem Holds.taken_le {a : Assembler} {P : List UInt8} {taken : List (List UInt8)}
    (h : Holds a P taken) : (taken.flatMap (· ++ [13, 10])).length ≤ P.length := by
  obtain ⟨rest, hrest⟩ := h.isPrefix
  have hcat := congrArg List.length (splitFrames_spec P).1
  rw [← hrest, List.flatMap_append] at hcat
  simp only [List.length_append] at hcat
  omega

theorem Holds.push {a : Assembler} {P : List UInt8} {taken : List (List UInt8)}
    (h : Holds a P taken) (chunk : List UInt8) : Holds (a.push chunk) (P ++ chunk) taken where
  scanned := h.scanned.push chunk
  isPrefix := h.isPrefix.trans (by rw [splitFrames_append]; exact List.prefix_append _ _)
  buffer := by
    simp only [Assembler.push]
    rw [h.buffer, List.drop_append_of_le_length h.taken_le]

theorem Holds.take {a : Assembler} {P : List UInt8} {taken : List (List UInt8)}
    (h : Holds a P taken) (limit : Option Nat) :
    (a.take limit).1 = takeAtMost limit ((splitFrames P).1.drop taken.length) ∧
      Holds (a.take limit).2 P (taken ++ (a.take limit).1) := by
  obtain ⟨h1, h2, h3⟩ := take_spec h.scanned limit
  rw [h.frames] at h1
  refine ⟨h1, h2, ?_, ?_⟩
  · obtain ⟨rest, hrest⟩ := h.isPrefix
    have hdrop : (splitFrames P).1.drop taken.length = rest := by
      rw [← hrest, List.drop_left]
    rw [h1, hdrop, ← hrest]
    exact (List.prefix_append_right_inj taken).2 (takeAtMost_isPrefix limit rest)
  · rw [h3, h.buffer, List.drop_drop, List.flatMap_append, List.length_append]

/-- A caller that pushes each chunk and then takes at most its limit of frames, or all of them
    when there is none: the frames taken after each push, and the assembler at the end. -/
def consume (a : Assembler) :
    List (List UInt8 × Option Nat) → List (List (List UInt8)) × Assembler
  | [] => ([], a)
  | (chunk, limit) :: rest =>
    let r := (a.push chunk).take limit
    let s := r.2.consume rest
    (r.1 :: s.1, s.2)

theorem consume_append (a : Assembler) (steps more : List (List UInt8 × Option Nat)) :
    a.consume (steps ++ more) =
      ((a.consume steps).1 ++ ((a.consume steps).2.consume more).1,
        ((a.consume steps).2.consume more).2) := by
  induction steps generalizing a with
  | nil => rfl
  | cons step steps ih =>
    obtain ⟨chunk, limit⟩ := step
    simp [consume, ih]

/-- A run keeps `Holds`: by induction on the steps, each a push and a take. -/
theorem Holds.consume {a : Assembler} {P : List UInt8} {taken : List (List UInt8)}
    (h : Holds a P taken) (steps : List (List UInt8 × Option Nat)) :
    Holds (a.consume steps).2 (P ++ (steps.map Prod.fst).flatten)
      (taken ++ (a.consume steps).1.flatten) := by
  induction steps generalizing a P taken with
  | nil => simpa [Assembler.consume] using h
  | cons step steps ih =>
    obtain ⟨chunk, limit⟩ := step
    have hnext := ih ((h.push chunk).take limit).2
    simpa [Assembler.consume, List.append_assoc] using hnext

/-- When every push is drained, the frames handed out are all the frames of the stream. -/
theorem Holds.consume_drained {a : Assembler} {P : List UInt8} (h : Holds a P (splitFrames P).1)
    (chunks : List (List UInt8)) :
    (splitFrames P).1 ++ (a.consume (chunks.map (·, none))).1.flatten =
      (splitFrames (P ++ chunks.flatten)).1 := by
  induction chunks generalizing a P with
  | nil => simp [Assembler.consume]
  | cons chunk chunks ih =>
    obtain ⟨htaken, hholds⟩ := (h.push chunk).take none
    -- draining leaves no frame of the stream so far behind
    have hall :
        (splitFrames P).1 ++ ((a.push chunk).take none).1 = (splitFrames (P ++ chunk)).1 := by
      obtain ⟨rest, hrest⟩ := (h.push chunk).isPrefix
      rw [htaken, takeAtMost, ← hrest, List.drop_left]
    rw [hall] at hholds
    have hrun := ih hholds
    simp only [Assembler.consume, List.map_cons, List.flatten_cons, List.append_assoc] at hrun ⊢
    rw [← List.append_assoc, hall, hrun]

/-! ## Reachable states -/

/-- The states a caller can bring an assembler into from the empty one: pushes of any chunks
    and single frames taken, in any order. The frames of a push are taken one `next` at a time,
    so a caller that stops taking them early leaves one of these states too. -/
inductive Reachable : Assembler → Prop
  | empty : Reachable {}
  | push {a : Assembler} (chunk : List UInt8) : Reachable a → Reachable (a.push chunk)
  | next {a : Assembler} : Reachable a → Reachable a.next.2

/-- A search keeps `Scanned`: a hit starts again at the front, and a miss leaves no pair start
    in the whole buffer. -/
theorem Scanned.next {a : Assembler} (h : a.Scanned) : a.next.2.Scanned := by
  rw [next_eq h]
  cases hfind : findCrLf a.buffer with
  | some pos => exact scanned_of_zero _
  | none => exact ⟨Nat.le_refl _, fun i _ => findCrLf_eq_none_iff.1 hfind i⟩

theorem Reachable.scanned {a : Assembler} (h : Reachable a) : a.Scanned := by
  induction h with
  | empty => exact scanned_empty
  | push chunk _ ih => exact ih.push chunk
  | next _ ih => exact ih.next

/-- Taking up to a limit of frames is a series of `next` steps. -/
theorem Reachable.take {a : Assembler} (h : Reachable a) (limit : Option Nat) :
    Reachable (a.take limit).2 := by
  suffices hgo : ∀ fuel n (a : Assembler), Reachable a → Reachable (take.go fuel a n).2 from
    hgo _ _ a h
  intro fuel
  induction fuel with
  | zero => intro n a ha; exact ha
  | succ fuel ih =>
    intro n a ha
    cases n with
    | zero => exact ha
    | succ n =>
      have hnext := ha.next
      simp only [take.go]
      cases hn : a.next with
      | mk frame a' =>
        rw [hn] at hnext
        cases frame with
        | some f => exact ih n a' hnext
        | none => exact hnext

/-- Every state of a caller's run of pushes and takes is reachable. -/
theorem Reachable.consume {a : Assembler} (h : Reachable a)
    (steps : List (List UInt8 × Option Nat)) : Reachable (a.consume steps).2 := by
  induction steps generalizing a with
  | nil => exact h
  | cons step steps ih => exact ih ((h.push step.1).take step.2)

/-- Under `Scanned` the offset is only a shortcut: the search from it hands out what a search
    from the front would, and leaves the same state. -/
theorem next_eq_next_from_front {a : Assembler} (h : a.Scanned) :
    a.next = { a with scanned := 0 }.next := by
  rw [next_eq h, next_eq (scanned_of_zero a.buffer)]

/-- In every state a caller can reach, and so after every run of pushes and takes, `scanned`
    lies within the buffer, so the slice from it exists, and no CR LF pair starts before it.
    The search from `scanned` therefore hands out the same frame, and leaves the same buffer
    and offset, as a search from the front. -/
theorem scan_offset_is_sound :
    (∀ a : Assembler, Reachable a →
      a.scanned ≤ a.buffer.length ∧ (∀ i < a.scanned, ¬ CrLfAt a.buffer i) ∧
        a.next = { a with scanned := 0 }.next) ∧
    (∀ steps : List (List UInt8 × Option Nat),
      Reachable (({} : Assembler).consume steps).2) := by
  refine ⟨fun a h => ?_, fun steps => Reachable.empty.consume steps⟩
  have hs := h.scanned
  exact ⟨le_trans hs.le (Nat.sub_le _ _), hs.clear, next_eq_next_from_front hs⟩

/-- A CR at the end of one chunk and its LF at the start of the next: after the miss the
    offset rests on the CR, and the search from it still finds the pair. -/
theorem scan_offset_is_sound_split_pair :
    Reachable ((({} : Assembler).push [97, 13]).next.2.push [10]) ∧
      ((({} : Assembler).push [97, 13]).next.2.push [10]).scanned ≤
        ((({} : Assembler).push [97, 13]).next.2.push [10]).buffer.length ∧
      (∀ i < ((({} : Assembler).push [97, 13]).next.2.push [10]).scanned,
        ¬ CrLfAt ((({} : Assembler).push [97, 13]).next.2.push [10]).buffer i) ∧
      ((({} : Assembler).push [97, 13]).next.2.push [10]).next =
        { ((({} : Assembler).push [97, 13]).next.2.push [10]) with scanned := 0 }.next :=
  have h : Reachable ((({} : Assembler).push [97, 13]).next.2.push [10]) :=
    .push _ (.next (.push _ .empty))
  ⟨h, scan_offset_is_sound.1 _ h⟩

end Assembler

/-- Feeds the chunks in order and gathers what is signalled. -/
def FrameReader.feedAll (r : FrameReader) : List (List UInt8) → List Signal × FrameReader
  | [] => ([], r)
  | chunk :: rest =>
    let s := r.feed chunk
    let t := s.2.feedAll rest
    (s.1 ++ t.1, t.2)

/-- A reader signals the events of the frames its assembler hands out when drained. -/
theorem FrameReader.feedAll_eq (r : FrameReader) (chunks : List (List UInt8)) :
    (r.feedAll chunks).1 = (r.assembler.consume (chunks.map (·, none))).1.flatten.filterMap
      fun f => (decodeEvent f).map (.frame r.channel) := by
  induction chunks generalizing r with
  | nil => rfl
  | cons chunk chunks ih =>
    simp only [feedAll, feed, Assembler.consume, List.map_cons, List.flatten_cons,
      List.filterMap_append, ih]

/-! ## Frames handed out over a whole run -/

/-- Frames pass through the assembler unchanged in content and order. The frames of a stream
    are its CR LF split, and they are free of CR LF. After any history of pushes and takes, a
    push followed by a take of at most `limit` frames hands out the next frames of the split
    of everything pushed so far, up to the limit; `pending` counts the bytes pushed less those
    of the frames taken, two terminator bytes each; and when every push is drained the frames
    are those of the whole stream, whatever the chunks. A reader therefore signals, in order,
    the event of each frame of the stream that decodes. -/
theorem assembler_hands_out_split (steps : List (List UInt8 × Option Nat)) (chunk : List UInt8)
    (limit : Option Nat) (chunks : List (List UInt8)) (channel : Channel) :
    (∀ (bs t : List UInt8) (fs : List (List UInt8)), splitFrames bs = (fs, t) ↔
      bs = fs.flatMap (· ++ [13, 10]) ++ t ∧ (∀ f ∈ fs, NoCrLf f) ∧ NoCrLf t) ∧
    (({} : Assembler).consume (steps ++ [(chunk, limit)])).1 =
      (({} : Assembler).consume steps).1 ++
        [takeAtMost limit ((splitFrames ((steps.map Prod.fst).flatten ++ chunk)).1.drop
          (({} : Assembler).consume steps).1.flatten.length)] ∧
    (({} : Assembler).consume steps).2.pending +
        ((({} : Assembler).consume steps).1.flatten.map (·.length + 2)).sum =
      (steps.map Prod.fst).flatten.length ∧
    (∀ f ∈ (({} : Assembler).consume steps).1.flatten, NoCrLf f) ∧
    (({} : Assembler).consume (chunks.map (·, none))).1.flatten =
      (splitFrames chunks.flatten).1 ∧
    (FrameReader.feedAll ⟨channel, {}⟩ chunks).1 =
      (splitFrames chunks.flatten).1.filterMap fun f => (decodeEvent f).map (.frame channel) := by
  have hrun := Assembler.holds_empty.consume steps
  rw [List.nil_append, List.nil_append] at hrun
  have hdrained := Assembler.holds_empty.consume_drained chunks
  rw [show (splitFrames []).1 = [] from rfl] at hdrained
  simp only [List.nil_append] at hdrained
  refine ⟨fun _ _ _ => splitFrames_eq_iff, ?_, ?_, ?_, hdrained, ?_⟩
  · -- the next push and take, from where the history left the assembler
    rw [Assembler.consume_append]
    simp only [Assembler.consume]
    rw [((hrun.push chunk).take limit).1]
  · rw [← length_flatMap_crLf, Assembler.pending, hrun.buffer, List.length_drop]
    have := hrun.taken_le
    omega
  · intro f hf
    exact (splitFrames_spec _).2.1 f (hrun.isPrefix.subset hf)
  · rw [FrameReader.feedAll_eq, hdrained]

end TlcpLoad
