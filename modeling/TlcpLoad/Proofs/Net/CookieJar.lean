import Mathlib
import TlcpLoad.Net.Cookie
import TlcpLoad.Proofs.Text.Utf8

/-! # What the cookie jar replays

The jar keeps the cookies of each host as a list sorted by name. Seen through `List.lookup`,
that list is a map from names to values, and each save is one update of the map of the host it
came from (`cookies_save`): a stored cookie sets its name, an expired one removes it, and a
malformed one changes nothing. So after any sequence of saves, the cookies of a host are the
updates of the saves from that host, up to ASCII case, applied in order to no cookies
(`storedCookies`).

The main statement, `CookieJar.replays_stored_cookies`, reads the `Cookie` header off that
map: there is none when no cookie is stored, and otherwise it is the stored `name=value` pairs
in byte order of the names, joined by `"; "`. Because the header depends on the map alone,
saves from hosts that differ beyond ASCII case never touch each other, a save repeated at once
changes nothing, and saves of different names commute. -/

namespace TlcpLoad

/-! ## The map a host's cookies stand for -/

namespace CookieChange

/-- The name a change is about. -/
def name : CookieChange → String
  | .store name _ => name
  | .delete name => name

/-- A change as an update of the map from names to values. -/
def update : CookieChange → (String → Option String) → String → Option String
  | .store name value, f => Function.update f name (some value)
  | .delete name, f => Function.update f name none

theorem update_idem (c : CookieChange) (f : String → Option String) :
    c.update (c.update f) = c.update f := by
  cases c <;> simp [update]

theorem update_comm {c₁ c₂ : CookieChange} (h : c₁.name ≠ c₂.name) (f : String → Option String) :
    c₂.update (c₁.update f) = c₁.update (c₂.update f) := by
  cases c₁ <;> cases c₂ <;> simp only [update, name] at h ⊢ <;> exact Function.update_comm h _ _ f

end CookieChange

/-- What one save does to the cookies of `host`: a well-formed `Set-Cookie` from a host equal
    to it up to ASCII case updates them, and anything else leaves them. -/
def saveUpdate (host : String) (f : String → Option String) (save : String × String) :
    String → Option String :=
  if asciiLower save.1 = asciiLower host then
    match CookieChange.parse? save.2 with
    | some change => change.update f
    | none => f
  else f

/-- The cookies that a sequence of saves leaves for a host, as a map from names to values: the
    saves from that host applied in order to no cookies. -/
def storedCookies (saves : List (String × String)) (host : String) : String → Option String :=
  saves.foldl (saveUpdate host) fun _ => none

theorem lookup_cons_of_ne {β : Type} {k n : String} {v : β} {m : List (String × β)} (h : k ≠ n) :
    List.lookup k ((n, v) :: m) = List.lookup k m := by
  rw [List.lookup_cons, beq_false_of_ne h]

/-- A save made twice in a row leaves what it left once. -/
theorem saveUpdate_idem (host : String) (f : String → Option String) (s : String × String) :
    saveUpdate host (saveUpdate host f s) s = saveUpdate host f s := by
  unfold saveUpdate
  split_ifs
  · cases CookieChange.parse? s.2 with
    | none => rfl
    | some change => exact change.update_idem f
  · rfl

/-- Saves of different names leave the same cookies in either order. -/
theorem saveUpdate_comm (host : String) (f : String → Option String) {s₁ s₂ : String × String}
    (h : ∀ c₁ c₂, CookieChange.parse? s₁.2 = some c₁ → CookieChange.parse? s₂.2 = some c₂ →
      c₁.name ≠ c₂.name) :
    saveUpdate host (saveUpdate host f s₁) s₂ = saveUpdate host (saveUpdate host f s₂) s₁ := by
  unfold saveUpdate
  cases h₁ : CookieChange.parse? s₁.2 with
  | none => split_ifs <;> rfl
  | some c₁ =>
    cases h₂ : CookieChange.parse? s₂.2 with
    | none => split_ifs <;> rfl
    | some c₂ =>
      -- both saves change a name: only when both come from this host do the updates meet
      split_ifs
      · exact c₁.update_comm (h c₁ c₂ h₁ h₂) f
      all_goals rfl

theorem storedCookies_append (pre post : List (String × String)) (host : String) :
    storedCookies (pre ++ post) host = post.foldl (saveUpdate host) (storedCookies pre host) := by
  simp [storedCookies, List.foldl_append]

/-! ## Sorted cookie maps -/

namespace CookieMap

/-- Names strictly increase along the list, so each name has one entry. -/
def Sorted (m : CookieMap) : Prop :=
  m.Pairwise fun a b => a.1 < b.1

/-- Storing a cookie sets its name and no other. -/
theorem lookup_insert (name value : String) (m : CookieMap) (k : String) :
    List.lookup k (m.insert name value) =
      Function.update (List.lookup · m) name (some value) k := by
  induction m with
  | nil =>
    by_cases hk : k = name
    · subst hk
      simp [insert]
    · simp [insert, lookup_cons_of_ne hk, hk]
  | cons p m ih =>
    obtain ⟨n, v⟩ := p
    -- the new entry goes before `n`, replaces it, or goes further down
    by_cases hlt : name < n
    · by_cases hk : k = name
      · subst hk
        simp [insert, hlt]
      · simp [insert, hlt, lookup_cons_of_ne hk, hk]
    · by_cases hn : name = n
      · subst hn
        by_cases hk : k = name
        · subst hk
          simp [insert]
        · simp [insert, lookup_cons_of_ne hk, hk]
      · simp only [insert, hlt, hn, if_false]
        by_cases hk : k = n
        · subst hk
          simp [Ne.symm hn]
        · simp only [lookup_cons_of_ne hk, ih]
          by_cases hkn : k = name
          · subst hkn
            simp
          · simp [hkn, lookup_cons_of_ne hk]

/-- Deleting a cookie removes its name and no other. -/
theorem lookup_erase (name : String) (m : CookieMap) (k : String) :
    List.lookup k (m.erase name) = Function.update (List.lookup · m) name none k := by
  induction m with
  | nil => by_cases hk : k = name <;> simp [erase, hk]
  | cons p m ih =>
    obtain ⟨n, v⟩ := p
    have herase : erase name ((n, v) :: m) =
        if n = name then erase name m else (n, v) :: erase name m := by
      by_cases hn : n = name <;> simp [erase, hn]
    rw [herase]
    by_cases hn : n = name
    · subst hn
      by_cases hk : k = n
      · subst hk
        simpa using ih
      · simpa [hk, lookup_cons_of_ne hk] using ih
    · simp only [hn, if_false]
      by_cases hk : k = n
      · subst hk
        simp [Function.update_of_ne hn]
      · rw [lookup_cons_of_ne hk, ih]
        by_cases hkn : k = name
        · subst hkn
          simp
        · simp [hkn, lookup_cons_of_ne hk]

theorem mem_insert {name value : String} {m : CookieMap} {p : String × String}
    (h : p ∈ m.insert name value) : p = (name, value) ∨ p ∈ m := by
  induction m with
  | nil => simpa [insert] using h
  | cons q m ih =>
    obtain ⟨n, v⟩ := q
    simp only [insert] at h
    split_ifs at h with hlt hn
    · simpa using h
    · subst hn
      simp only [List.mem_cons] at h ⊢
      tauto
    · simp only [List.mem_cons] at h ⊢
      rcases h with h | h
      · exact .inr (.inl h)
      · rcases ih h with h | h
        · exact .inl h
        · exact .inr (.inr h)

theorem Sorted.insert {m : CookieMap} (h : Sorted m) (name value : String) :
    Sorted (m.insert name value) := by
  induction m with
  | nil => simp [Sorted, CookieMap.insert]
  | cons q m ih =>
    obtain ⟨n, v⟩ := q
    have hm : Sorted m := (List.pairwise_cons.1 h).2
    have hn : ∀ p ∈ m, n < p.1 := (List.pairwise_cons.1 h).1
    simp only [CookieMap.insert]
    split_ifs with hlt heq
    · -- the new name comes before `n`, hence before every later name
      refine List.pairwise_cons.2 ⟨fun p hp => ?_, h⟩
      rcases List.mem_cons.1 hp with rfl | hp
      · exact hlt
      · exact String.lt_trans hlt (hn p hp)
    · subst heq
      exact List.pairwise_cons.2 ⟨hn, hm⟩
    · have hgt : n < name := Std.lt_of_le_of_ne (String.not_lt.1 hlt) (Ne.symm heq)
      refine List.pairwise_cons.2 ⟨fun p hp => ?_, ih hm⟩
      rcases mem_insert hp with rfl | hp
      · exact hgt
      · exact hn p hp

theorem Sorted.erase {m : CookieMap} (h : Sorted m) (name : String) : Sorted (m.erase name) :=
  List.Pairwise.filter _ h

/-- In a sorted map, an entry is there exactly when its name looks up its value. -/
theorem Sorted.mem_iff {m : CookieMap} (h : Sorted m) (name value : String) :
    (name, value) ∈ m ↔ List.lookup name m = some value := by
  induction m with
  | nil => simp
  | cons q m ih =>
    obtain ⟨n, v⟩ := q
    have hm : Sorted m := (List.pairwise_cons.1 h).2
    have hn : ∀ p ∈ m, n < p.1 := (List.pairwise_cons.1 h).1
    by_cases hk : name = n
    · subst hk
      -- the later entries all have greater names, so only the first can hold `name`
      have hnot : (name, value) ∉ m := fun hp => String.lt_irrefl _ (hn _ hp)
      simp [hnot, eq_comm]
    · simp [lookup_cons_of_ne hk, hk, ih hm]

theorem eq_nil_iff_lookup {m : CookieMap} : m = [] ↔ ∀ name, List.lookup name m = none := by
  constructor
  · rintro rfl name
    rfl
  · intro h
    cases m with
    | nil => rfl
    | cons q m =>
      have := h q.1
      simp at this

end CookieMap

/-! ## The jar, host by host -/

namespace CookieJar

theorem lookup_setHost (key : String) (m : CookieMap) (hosts : List (String × CookieMap))
    (k : String) :
    List.lookup k (setHost key m hosts) = if k = key then some m else List.lookup k hosts := by
  induction hosts with
  | nil =>
    by_cases hk : k = key
    · subst hk
      simp [setHost]
    · simp [setHost, lookup_cons_of_ne hk, hk]
  | cons p hosts ih =>
    obtain ⟨h, old⟩ := p
    by_cases hh : h = key
    · subst hh
      by_cases hk : k = h
      · subst hk
        simp [setHost]
      · simp [setHost, lookup_cons_of_ne hk, hk]
    · by_cases hk : k = h
      · subst hk
        simp [setHost, hh]
      · simp [setHost, hh, lookup_cons_of_ne hk, ih]

/-- A save replaces the cookies of its host, up to ASCII case, by their update, and leaves the
    cookies of every other host. -/
theorem cookies_save (jar : CookieJar) (h setCookie host : String) :
    (jar.save h setCookie).cookies host =
      match CookieChange.parse? setCookie with
      | some (.store name value) =>
        if asciiLower host = asciiLower h then (jar.cookies host).insert name value
        else jar.cookies host
      | some (.delete name) =>
        if asciiLower host = asciiLower h then (jar.cookies host).erase name
        else jar.cookies host
      | none => jar.cookies host := by
  unfold save
  cases CookieChange.parse? setCookie with
  | none => rfl
  | some change =>
    by_cases hk : asciiLower host = asciiLower h
    · cases change <;> simp [cookies, lookup_setHost, hk]
    · cases change <;> simp [cookies, lookup_setHost, hk]

/-- The jar after a sequence of saves, in order, from an empty jar. -/
def ofSaves (saves : List (String × String)) : CookieJar :=
  saves.foldl (fun jar s => jar.save s.1 s.2) {}

/-- The jar holds, for every host, sorted cookies whose lookup is `f` of that host. -/
def Stores (jar : CookieJar) (f : String → String → Option String) : Prop :=
  ∀ host, CookieMap.Sorted (jar.cookies host) ∧ (List.lookup · (jar.cookies host)) = f host

theorem stores_empty : Stores {} fun _ _ => none := by
  intro host
  exact ⟨List.Pairwise.nil, rfl⟩

theorem Stores.save {jar : CookieJar} {f : String → String → Option String} (hs : jar.Stores f)
    (s : String × String) :
    (jar.save s.1 s.2).Stores fun host => saveUpdate host (f host) s := by
  intro host
  obtain ⟨hsorted, hlookup⟩ := hs host
  rw [cookies_save]
  unfold saveUpdate
  by_cases hk : asciiLower host = asciiLower s.1
  · simp only [hk, if_true]
    -- the save's host is this host: its change updates both sides alike
    cases CookieChange.parse? s.2 with
    | none => exact ⟨hsorted, hlookup⟩
    | some change =>
      cases change with
      | store name value =>
        refine ⟨hsorted.insert name value, funext fun k => ?_⟩
        rw [CookieMap.lookup_insert, hlookup]
        rfl
      | delete name =>
        refine ⟨hsorted.erase name, funext fun k => ?_⟩
        rw [CookieMap.lookup_erase, hlookup]
        rfl
  · have hk' : ¬ asciiLower s.1 = asciiLower host := fun he => hk he.symm
    simp only [hk, hk', if_false]
    cases CookieChange.parse? s.2 with
    | none => exact ⟨hsorted, hlookup⟩
    | some change => cases change <;> exact ⟨hsorted, hlookup⟩

theorem Stores.saveAll {jar : CookieJar} {f : String → String → Option String}
    (hs : jar.Stores f) (saves : List (String × String)) :
    (saves.foldl (fun (jar : CookieJar) s => jar.save s.1 s.2) jar).Stores
      fun host => saves.foldl (saveUpdate host) (f host) := by
  induction saves generalizing jar f with
  | nil => exact hs
  | cons s saves ih => exact ih (hs.save s)

/-- The jar after a sequence of saves stores, for every host, what the saves from that host
    left. -/
theorem stores_saves (saves : List (String × String)) :
    (ofSaves saves).Stores (storedCookies saves) :=
  stores_empty.saveAll saves

/-! ## The header -/

/-- Byte order of cookie names. -/
def ByteOrder (a b : String × String) : Prop :=
  Utf8.ofString a.1 < Utf8.ofString b.1

theorem header?_eq (jar : CookieJar) (host : String) :
    jar.header? host = if jar.cookies host = [] then none
      else some ("; ".intercalate ((jar.cookies host).map fun p => p.1 ++ "=" ++ p.2)) := by
  unfold header?
  split <;> simp_all

theorem sorted_byteOrder {m : CookieMap} (h : CookieMap.Sorted m) : m.Pairwise ByteOrder :=
  h.imp fun hab => Utf8.ofString_lt_ofString hab

/-- Two lists in byte order of names with the same entries are the same list. -/
theorem eq_of_byteOrder {l₁ l₂ : List (String × String)} (h₁ : l₁.Pairwise ByteOrder)
    (h₂ : l₂.Pairwise ByteOrder) (h : ∀ p, p ∈ l₁ ↔ p ∈ l₂) : l₁ = l₂ := by
  have hnodup : ∀ {l : List (String × String)}, l.Pairwise ByteOrder → l.Nodup := fun hl =>
    hl.imp fun {a b} (hab : ByteOrder a b) (heq : a = b) => by
      subst heq
      exact List.lt_irrefl _ hab
  refine List.Perm.eq_of_pairwise (fun a b _ _ hab hba => ?_) h₁ h₂
    ((List.perm_ext_iff_of_nodup (hnodup h₁) (hnodup h₂)).2 h)
  exact absurd hba (List.lt_asymm hab)

/-- Two jars whose sorted cookies for a host look up alike give it the same header. -/
theorem header?_eq_of_lookup {jar jar' : CookieJar} {host : String}
    (hsorted : CookieMap.Sorted (jar.cookies host)) (hsorted' : CookieMap.Sorted (jar'.cookies host))
    (h : (List.lookup · (jar.cookies host)) = (List.lookup · (jar'.cookies host))) :
    jar.header? host = jar'.header? host := by
  have heq : jar.cookies host = jar'.cookies host :=
    eq_of_byteOrder (sorted_byteOrder hsorted) (sorted_byteOrder hsorted') fun p => by
      rw [hsorted.mem_iff, hsorted'.mem_iff]
      exact Eq.to_iff (congrArg (· = some p.2) (congrFun h p.1))
  rw [header?_eq, header?_eq, heq]

/-- Saves that leave a host the same cookies give it the same header. -/
theorem header?_saves_congr {saves saves' : List (String × String)} {host : String}
    (h : storedCookies saves host = storedCookies saves' host) :
    (ofSaves saves).header? host = (ofSaves saves').header? host := by
  obtain ⟨hsorted, hlookup⟩ := stores_saves saves host
  obtain ⟨hsorted', hlookup'⟩ := stores_saves saves' host
  exact header?_eq_of_lookup hsorted hsorted' (by rw [hlookup, hlookup', h])

/-! ## What the header replays -/

/-- A host's header is absent exactly when no cookie is stored for it. -/
theorem header?_ofSaves_eq_none (saves : List (String × String)) (host : String) :
    (ofSaves saves).header? host = none ↔ ∀ name, storedCookies saves host name = none := by
  obtain ⟨-, hlookup⟩ := stores_saves saves host
  rw [header?_eq, ← hlookup]
  simp only [ite_eq_left_iff, reduceCtorEq, imp_false, not_not]
  exact CookieMap.eq_nil_iff_lookup

/-- Otherwise the header lists the stored cookies in byte order of their names. -/
theorem header?_ofSaves_eq_some (saves : List (String × String)) (host text : String) :
    (ofSaves saves).header? host = some text ↔
      ∃ l : List (String × String), l ≠ [] ∧ l.Pairwise ByteOrder ∧
        (∀ name value, (name, value) ∈ l ↔ storedCookies saves host name = some value) ∧
        text = "; ".intercalate (l.map fun p => p.1 ++ "=" ++ p.2) := by
  obtain ⟨hsorted, hlookup⟩ := stores_saves saves host
  have hmem : ∀ name value,
      (name, value) ∈ (ofSaves saves).cookies host ↔ storedCookies saves host name = some value :=
    fun name value => by rw [hsorted.mem_iff, ← hlookup]
  rw [header?_eq]
  constructor
  · intro h
    by_cases hnil : (ofSaves saves).cookies host = []
    · simp [hnil] at h
    · simp only [hnil, if_false, Option.some.injEq] at h
      exact ⟨_, hnil, sorted_byteOrder hsorted, hmem, h.symm⟩
  · rintro ⟨l, hne, hl, hlmem, rfl⟩
    -- a list in byte order is fixed by its entries, so it is the jar's own list
    have heq : l = (ofSaves saves).cookies host :=
      eq_of_byteOrder hl (sorted_byteOrder hsorted) fun p => by rw [hlmem, hmem]
    subst heq
    simp [hne]

/-- A save from another host, beyond ASCII case, leaves a host's header. -/
theorem header?_save_of_ne (jar : CookieJar) {h host : String}
    (hne : asciiLower h ≠ asciiLower host) (setCookie : String) :
    (jar.save h setCookie).header? host = jar.header? host := by
  have hcookies : (jar.save h setCookie).cookies host = jar.cookies host := by
    rw [cookies_save]
    have hk : ¬ asciiLower host = asciiLower h := fun he => hne he.symm
    cases CookieChange.parse? setCookie with
    | none => rfl
    | some change => cases change <;> simp [hk]
  rw [header?_eq, header?_eq, hcookies]

/-- After any sequence of saves, a host's `Cookie` header replays the cookies stored for it:
    none when no cookie is stored, and otherwise the stored `name=value` pairs in byte order
    of the names, joined by `"; "`. A save from a host that differs beyond ASCII case leaves
    the header, a save made twice in a row is the same as made once, and saves of different
    names commute. -/
theorem replays_stored_cookies :
    (∀ (saves : List (String × String)) (host : String),
      ((ofSaves saves).header? host = none ↔ ∀ name, storedCookies saves host name = none) ∧
      ∀ text, (ofSaves saves).header? host = some text ↔
        ∃ l : List (String × String), l ≠ [] ∧
          l.Pairwise (fun a b => Utf8.ofString a.1 < Utf8.ofString b.1) ∧
          (∀ name value, (name, value) ∈ l ↔ storedCookies saves host name = some value) ∧
          text = "; ".intercalate (l.map fun p => p.1 ++ "=" ++ p.2)) ∧
    (∀ (jar : CookieJar) (h setCookie host : String), asciiLower h ≠ asciiLower host →
      (jar.save h setCookie).header? host = jar.header? host) ∧
    (∀ (pre post : List (String × String)) (s : String × String) (host : String),
      (ofSaves (pre ++ s :: s :: post)).header? host = (ofSaves (pre ++ s :: post)).header? host) ∧
    (∀ (pre post : List (String × String)) (s₁ s₂ : String × String) (host : String),
      (∀ c₁ c₂, CookieChange.parse? s₁.2 = some c₁ → CookieChange.parse? s₂.2 = some c₂ →
        c₁.name ≠ c₂.name) →
      (ofSaves (pre ++ s₁ :: s₂ :: post)).header? host =
        (ofSaves (pre ++ s₂ :: s₁ :: post)).header? host) := by
  refine ⟨fun saves host => ⟨header?_ofSaves_eq_none saves host,
    fun text => header?_ofSaves_eq_some saves host text⟩,
    fun jar h setCookie host hne => header?_save_of_ne jar hne setCookie, ?_, ?_⟩
  · intro pre post s host
    apply header?_saves_congr
    simp only [storedCookies_append, List.foldl_cons, saveUpdate_idem]
  · intro pre post s₁ s₂ host hnames
    apply header?_saves_congr
    simp only [storedCookies_append, List.foldl_cons, saveUpdate_comm host _ hnames]

/-- Two cookies of different names from one host, in either order. -/
theorem replays_stored_cookies_swapped :
    (∀ c₁ c₂, CookieChange.parse? "a=1" = some c₁ → CookieChange.parse? "b=2" = some c₂ →
        c₁.name ≠ c₂.name) ∧
      (ofSaves ([] ++ ("h", "a=1") :: ("H", "b=2") :: [])).header? "h" =
        (ofSaves ([] ++ ("H", "b=2") :: ("h", "a=1") :: [])).header? "h" := by
  have h₁ : CookieChange.parse? "a=1" = some (.store "a" "1") := by cbv
  have h₂ : CookieChange.parse? "b=2" = some (.store "b" "2") := by cbv
  have hnames : ∀ c₁ c₂, CookieChange.parse? "a=1" = some c₁ →
      CookieChange.parse? "b=2" = some c₂ → c₁.name ≠ c₂.name := by
    intro c₁ c₂ hc₁ hc₂
    rw [h₁, Option.some.injEq] at hc₁
    rw [h₂, Option.some.injEq] at hc₂
    subst hc₁ hc₂
    decide
  exact ⟨hnames, replays_stored_cookies.2.2.2 [] [] ("h", "a=1") ("H", "b=2") "h" hnames⟩

end CookieJar

end TlcpLoad
