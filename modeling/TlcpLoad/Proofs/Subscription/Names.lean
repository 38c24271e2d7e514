import Mathlib
import TlcpLoad.Subscription.Basic
import TlcpLoad.Proofs.Wire.FieldCodec

/-! # Name lists: positions and the text sent for them

A name list is read three ways: by position (`get?`), by name (`position?`, the last position
where the name occurs) and as the text the server receives (`joined`, the names between single
spaces). The server splits that text at blanks again.

`Blank.words_eq_splitOnP` says what the words of a text are without grouping: the pieces
between single blanks, the empty ones dropped. `NameList.parse_joined` then reads a joined
list back whenever every name is a word (not empty, no blank in it), so the positions the server
gives the names of a subscription are those its item updates read them at. -/

namespace TlcpLoad

namespace Blank

/-- A text that is one word: not empty, and with no blank in it. -/
def IsWord (s : String) : Prop :=
  s ≠ "" ∧ ∀ c ∈ s.toList, isBlank c = false

/-! ## Words as the pieces between blanks -/

section Words

variable {bs w r : List Char}

/-- Characters that are all blank, or all not blank, form one group of the split. -/
theorem splitBy_sameKind (hne : bs ≠ []) (b : Bool) (hb : ∀ c ∈ bs, isBlank c = b) :
    bs.splitBy (fun x y => isBlank x == isBlank y) = [bs] :=
  List.splitBy_of_isChain hne <| List.Pairwise.isChain <|
    List.pairwise_of_forall_mem_list fun x hx y hy => by simp [hb x hx, hb y hy]

/-- A run of characters of one kind before text that starts with the other kind, or is empty:
    a run of blanks gives no word, and a run of other characters is the first word. -/
theorem words_run_append (hne : bs ≠ []) {b : Bool} (hbs : ∀ c ∈ bs, isBlank c = b)
    (hr : ∀ c ∈ r.head?, isBlank c = !b) :
    words (bs ++ r) = (if b then [] else [bs]) ++ words r := by
  have hcut : ∀ x ∈ bs.getLast?, ∀ y ∈ r.head?, (isBlank x == isBlank y) = false := by
    intro x hx y hy
    simp [hbs x (List.mem_of_mem_getLast? hx), hr y hy]
  obtain ⟨c, cs, rfl⟩ := List.exists_cons_of_ne_nil hne
  simp only [words, List.splitBy_append hcut, splitBy_sameKind hne b hbs, List.filter_append]
  cases b <;> simp [hbs c List.mem_cons_self]

/-- The non-empty pieces between single blanks do not see a run of blanks. -/
theorem pieces_blanks_append (hbs : ∀ c ∈ bs, isBlank c = true) :
    ((bs ++ r).splitOnP isBlank).filter (· ≠ []) = (r.splitOnP isBlank).filter (· ≠ []) := by
  induction bs with
  | nil => rfl
  | cons c cs ih =>
    have hc := hbs c List.mem_cons_self
    rw [List.cons_append, List.splitOnP_cons_eq_if_modifyHead, if_pos hc,
      List.filter_cons_of_neg (by simp)]
    exact ih fun x hx => hbs x (List.mem_cons_of_mem c hx)

/-- A word followed by a blank, or by nothing, is the first non-empty piece. -/
theorem pieces_word_append (hne : w ≠ []) (hw : ∀ c ∈ w, isBlank c = false)
    (hr : ∀ c ∈ r.head?, isBlank c = true) :
    ((w ++ r).splitOnP isBlank).filter (· ≠ []) =
      w :: (r.splitOnP isBlank).filter (· ≠ []) := by
  cases r with
  | nil =>
    rw [List.append_nil, List.splitOnP_eq_singleton hw]
    simp [hne]
  | cons b r =>
    have hb : isBlank b = true := hr b rfl
    rw [List.splitOnP_append_cons_of_forall_mem hw b hb, List.filter_cons_of_pos (by simpa),
      List.splitOnP_cons_eq_if_modifyHead, if_pos hb, List.filter_cons_of_neg (by simp)]

/-- The non-empty pieces see a run of one kind as the words do. -/
theorem pieces_run_append (hne : bs ≠ []) {b : Bool} (hbs : ∀ c ∈ bs, isBlank c = b)
    (hr : ∀ c ∈ r.head?, isBlank c = !b) :
    ((bs ++ r).splitOnP isBlank).filter (· ≠ []) =
      (if b then [] else [bs]) ++ (r.splitOnP isBlank).filter (· ≠ []) := by
  cases b with
  | true => exact pieces_blanks_append hbs
  | false => exact pieces_word_append hne hbs hr

end Words

/-- The words of a text are the pieces between single blanks, with the empty pieces dropped.
    The text splits into alternating runs of blanks and of other characters; the induction
    on its length peels off the first run, on which the two sides agree. -/
theorem words_eq_splitOnP (cs : List Char) :
    words cs = (cs.splitOnP isBlank).filter (· ≠ []) := by
  induction hn : cs.length using Nat.strong_induction_on generalizing cs with
  | _ n ih =>
  match cs with
  | [] => rfl
  | c :: rest =>
    -- the first run holds the characters of the same kind as `c`, blank or not
    set r := rest.dropWhile (fun x => isBlank x == isBlank c)
    have hsplit : c :: rest = (c :: rest.takeWhile (fun x => isBlank x == isBlank c)) ++ r := by
      rw [List.cons_append, List.takeWhile_append_dropWhile]
    have hrun : ∀ x ∈ c :: rest.takeWhile (fun x => isBlank x == isBlank c),
        isBlank x = isBlank c := by
      intro x hx
      rcases List.mem_cons.1 hx with rfl | hx
      · rfl
      · simpa using List.mem_takeWhile_imp hx
    have hr : ∀ x ∈ r.head?, isBlank x = !isBlank c := by
      intro x hx
      have hne : r ≠ [] := List.ne_nil_of_mem (List.mem_of_mem_head? hx)
      rw [← List.head_of_mem_head? hx]
      exact Bool.eq_not.2 (by simpa using List.head_dropWhile_not _ hne)
    have hlen : r.length < n := by
      rw [← hn]
      exact Nat.lt_succ_of_le (List.length_dropWhile_le _ _)
    rw [hsplit, words_run_append (List.cons_ne_nil _ _) hrun hr,
      pieces_run_append (List.cons_ne_nil _ _) hrun hr, ih r.length hlen r rfl]

/-- Pieces joined by one blank split back into those pieces, when none holds a blank. -/
theorem splitOnP_intercalate_blank {x : Char} (hx : isBlank x = true) {ls : List (List Char)}
    (hne : ls ≠ []) (hls : ∀ l ∈ ls, ∀ c ∈ l, isBlank c = false) :
    ([x].intercalate ls).splitOnP isBlank = ls := by
  induction ls with
  | nil => exact absurd rfl hne
  | cons l ls ih =>
    cases ls with
    | nil =>
      rw [List.intercalate_singleton]
      exact List.splitOnP_eq_singleton (hls l List.mem_cons_self)
    | cons l' ls =>
      rw [List.intercalate_cons_cons, List.append_assoc, List.singleton_append,
        List.splitOnP_append_cons_of_forall_mem (hls l List.mem_cons_self) x hx,
        ih (List.cons_ne_nil _ _) fun m hm => hls m (List.mem_cons_of_mem l hm)]

/-- Words joined by single spaces split back into those words. -/
theorem wordsOf_intercalate {ns : List String} (h : ∀ n ∈ ns, IsWord n) :
    wordsOf (" ".intercalate ns) = ns := by
  cases ns with
  | nil => rfl
  | cons n ns =>
    have hpieces : ∀ l ∈ (n :: ns).map String.toList, ∀ c ∈ l, isBlank c = false := by
      intro l hl
      obtain ⟨m, hm, rfl⟩ := List.mem_map.1 hl
      exact (h m hm).2
    have hnonempty : ∀ l ∈ (n :: ns).map String.toList, l ≠ [] := by
      intro l hl
      obtain ⟨m, hm, rfl⟩ := List.mem_map.1 hl
      simpa using (h m hm).1
    rw [wordsOf, String.toList_intercalate, words_eq_splitOnP,
      show (" " : String).toList = [' '] from rfl,
      splitOnP_intercalate_blank (by decide) (by simp) hpieces,
      List.filter_eq_self.2 fun l hl => by simpa using hnonempty l hl, List.map_map]
    simp

end Blank

namespace NameList

/-! ## Positions by name -/

/-- `i` is the last position of `name` in `l`. -/
def IsLastIndex (l : List String) (name : String) (i : Nat) : Prop :=
  l[i]? = some name ∧ ∀ j, i < j → l[j]? ≠ some name

section LastIndex

variable {l : List String} {n name : String} {i j : Nat}

theorem isLastIndex_cons_succ : IsLastIndex (n :: l) name (i + 1) ↔ IsLastIndex l name i := by
  constructor
  · rintro ⟨hi, hlast⟩
    exact ⟨hi, fun j hj => hlast (j + 1) (by omega)⟩
  · rintro ⟨hi, hlast⟩
    refine ⟨hi, fun j hj => ?_⟩
    obtain ⟨j, rfl⟩ : ∃ k, j = k + 1 := ⟨j - 1, by omega⟩
    exact hlast j (by omega)

theorem isLastIndex_cons_zero : IsLastIndex (n :: l) name 0 ↔ n = name ∧ name ∉ l := by
  constructor
  · rintro ⟨h0, hlast⟩
    refine ⟨by simpa using h0, fun hmem => ?_⟩
    obtain ⟨k, hk, hget⟩ := List.getElem_of_mem hmem
    exact hlast (k + 1) (Nat.succ_pos k) (by simp [hk, hget])
  · rintro ⟨rfl, hnot⟩
    refine ⟨rfl, fun j hj hget => hnot ?_⟩
    obtain ⟨j, rfl⟩ : ∃ k, j = k + 1 := ⟨j - 1, by omega⟩
    exact List.mem_of_getElem? hget

theorem IsLastIndex.mem (h : IsLastIndex l name i) : name ∈ l :=
  List.mem_of_getElem? h.1

/-- A name has at most one last position. -/
theorem IsLastIndex.unique (hi : IsLastIndex l name i) (hj : IsLastIndex l name j) : i = j := by
  rcases Nat.lt_trichotomy i j with hlt | heq | hgt
  · exact absurd hj.1 (hi.2 j hlt)
  · exact heq
  · exact absurd hi.1 (hj.2 i hgt)

/-- Every name of a list has a last position. -/
theorem exists_isLastIndex (h : name ∈ l) : ∃ i, IsLastIndex l name i := by
  induction l with
  | nil => cases h
  | cons m l ih =>
    by_cases hl : name ∈ l
    · obtain ⟨i, hi⟩ := ih hl
      exact ⟨i + 1, isLastIndex_cons_succ.2 hi⟩
    · have hm : m = name := by
        rcases List.mem_cons.1 h with rfl | h
        · rfl
        · exact absurd h hl
      exact ⟨0, isLastIndex_cons_zero.2 ⟨hm, hl⟩⟩

end LastIndex

/-- The search from `start` finds the last position of a name, counted from `start`. -/
theorem lastPosition_eq_some_iff (name : String) (l : List String) (start i : Nat) :
    lastPosition name l start = some i ↔ ∃ k, i = start + k ∧ IsLastIndex l name k := by
  induction l generalizing start i with
  | nil => simp [lastPosition, IsLastIndex]
  | cons n rest ih =>
    simp only [lastPosition]
    cases hrest : lastPosition name rest (start + 1) with
    | some i' =>
      -- a later occurrence decides
      obtain ⟨k', rfl, hk'⟩ := (ih (start + 1) i').1 hrest
      constructor
      · rintro ⟨⟩
        exact ⟨k' + 1, by omega, isLastIndex_cons_succ.2 hk'⟩
      · rintro ⟨k, rfl, hk⟩
        cases k with
        | zero => exact absurd hk'.mem (isLastIndex_cons_zero.1 hk).2
        | succ k =>
          rw [hk'.unique (isLastIndex_cons_succ.1 hk)]
          simp only [Option.some.injEq]
          omega
    | none =>
      -- no later occurrence: only the head can be the last one
      have hnot : name ∉ rest := fun hmem => by
        obtain ⟨k, hk⟩ := exists_isLastIndex hmem
        simpa [hrest] using (ih (start + 1) (start + 1 + k)).2 ⟨k, rfl, hk⟩
      constructor
      · intro h
        have hn : n = name := by
          by_contra hne
          simp [hne] at h
        simp only [hn, if_true, Option.some.injEq] at h
        exact ⟨0, by omega, isLastIndex_cons_zero.2 ⟨hn, hnot⟩⟩
      · rintro ⟨k, rfl, hk⟩
        cases k with
        | zero =>
          obtain ⟨hn, -⟩ := isLastIndex_cons_zero.1 hk
          simp [hn]
        | succ k => exact absurd (isLastIndex_cons_succ.1 hk).mem hnot

/-- The position of a name is its last position in the list. -/
theorem position?_eq_some_iff (d : NameList) (name : String) (i : Nat) :
    d.position? name = some i ↔ IsLastIndex d.names name i := by
  rw [position?, lastPosition_eq_some_iff]
  constructor
  · rintro ⟨k, rfl, hk⟩
    simpa using hk
  · intro hi
    exact ⟨i, by simp, hi⟩

/-- A name has no position exactly when it is not in the list. -/
theorem position?_eq_none_iff (d : NameList) (name : String) :
    d.position? name = none ↔ name ∉ d.names := by
  constructor
  · intro hnone hmem
    obtain ⟨i, hi⟩ := exists_isLastIndex hmem
    rw [← position?_eq_some_iff, hnone] at hi
    cases hi
  · intro hnot
    cases hpos : d.position? name with
    | none => rfl
    | some i => exact absurd ((position?_eq_some_iff d name i).1 hpos).mem hnot

/-! ## The joined text read back -/

/-- The names of a text are its pieces between single blanks, the empty ones dropped. -/
theorem parse_names (spec : String) :
    (parse spec).names =
      ((spec.toList.splitOnP Blank.isBlank).filter (· ≠ [])).map String.ofList := by
  rw [parse, Blank.wordsOf, Blank.words_eq_splitOnP]

/-- Splitting the joined text at blanks gives back the list, when every name is a word. -/
theorem parse_joined (d : NameList) (h : ∀ n ∈ d.names, Blank.IsWord n) :
    parse d.joined = d := by
  rw [parse, joined, Blank.wordsOf_intercalate h]

/-- The server's reading of a sent list: the text unquoted, then split at blanks. -/
theorem unquote_quote_joined (d : NameList) (h : ∀ n ∈ d.names, Blank.IsWord n) :
    (FieldCodec.unquote (Utf8.ofString (FieldCodec.quote d.joined))).map parse = .ok d := by
  rw [FieldCodec.unquote_quote]
  exact congrArg Except.ok (parse_joined d h)

/-- What a name list gives and what the server reads from it. A list of names has their
    number as its length, the name at each position, and the names joined by single spaces
    as its text; the position of a name is its last position in the list, and a name not in
    the list has none. A text is read as its words, the pieces between single blanks that
    are not empty, and a joined list whose names are all words reads back as itself. So the
    group and schema a subscription sends, quoted and read back by the server, number the
    items and fields as its updates read them. -/
theorem names_read_back_in_place (ns : List String) :
    (NameList.mk ns).length = ns.length ∧
    (∀ i, (NameList.mk ns).get? i = ns[i]?) ∧
    (NameList.mk ns).joined = " ".intercalate ns ∧
    (∀ name i, (NameList.mk ns).position? name = some i ↔
      ns[i]? = some name ∧ ∀ j, i < j → ns[j]? ≠ some name) ∧
    (∀ name, (NameList.mk ns).position? name = none ↔ name ∉ ns) ∧
    (∀ spec, (parse spec).names =
      ((spec.toList.splitOnP Blank.isBlank).filter (· ≠ [])).map String.ofList) ∧
    ((∀ n ∈ ns, Blank.IsWord n) → parse (NameList.mk ns).joined = NameList.mk ns) ∧
    (∀ sub : Subscription, (∀ n ∈ sub.items.names, Blank.IsWord n) →
      (∀ n ∈ sub.fields.names, Blank.IsWord n) →
      (FieldCodec.unquote (Utf8.ofString (FieldCodec.quote sub.items.joined))).map parse =
          .ok sub.items ∧
        (FieldCodec.unquote (Utf8.ofString (FieldCodec.quote sub.fields.joined))).map parse =
          .ok sub.fields) :=
  ⟨rfl, fun _ => rfl, rfl, fun name i => position?_eq_some_iff ⟨ns⟩ name i,
    fun name => position?_eq_none_iff ⟨ns⟩ name, parse_names, parse_joined ⟨ns⟩,
    fun sub hi hf => ⟨unquote_quote_joined sub.items hi, unquote_quote_joined sub.fields hf⟩⟩

/-- The schema of the library's own test, and a subscription to two items with it. -/
theorem names_read_back_in_place_bid_ask :
    (∀ n ∈ ["bid", "ask", "last"], Blank.IsWord n) ∧
      parse (NameList.mk ["bid", "ask", "last"]).joined = NameList.mk ["bid", "ask", "last"] ∧
    (∀ n ∈ ["i1", "i2"], Blank.IsWord n) ∧
      (FieldCodec.unquote (Utf8.ofString (FieldCodec.quote (NameList.mk ["i1", "i2"]).joined))).map
          parse = .ok (NameList.mk ["i1", "i2"]) ∧
        (FieldCodec.unquote
            (Utf8.ofString (FieldCodec.quote (NameList.mk ["bid", "ask", "last"]).joined))).map
          parse = .ok (NameList.mk ["bid", "ask", "last"]) :=
  have hf : ∀ n ∈ ["bid", "ask", "last"], Blank.IsWord n := by
    simp [Blank.IsWord, Blank.isBlank]
  have hi : ∀ n ∈ ["i1", "i2"], Blank.IsWord n := by
    simp [Blank.IsWord, Blank.isBlank]
  ⟨hf, (names_read_back_in_place ["bid", "ask", "last"]).2.2.2.2.2.2.1 hf, hi,
    (names_read_back_in_place ["bid", "ask", "last"]).2.2.2.2.2.2.2
      { items := ⟨["i1", "i2"]⟩, fields := ⟨["bid", "ask", "last"]⟩ } hi hf⟩

end NameList

end TlcpLoad
