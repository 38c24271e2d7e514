import Mathlib.Data.List.Zip
import TlcpLoad.Proofs.Config.Check

/-! # Reading a configuration object

`validateRaw` checks an object against the schema table and `ClientConfig.ofJson` reads its
entries into the configuration, one decoder per key. Seen through the values of a configuration
in schema order (`ConfigDecoder.Partial.values`), reading one entry sets the value of its key and
nothing else (`readEntry_values`), so reading an object with one entry per key gives each key
the value it has there, or what it had before when it is missing (`foldlM_readEntry_values`).

The table and the decoders agree on which keys are mandatory and on the JSON type of each key:
on an object that the table accepts, whose integers fit their fields, reading succeeds and gives
every key its value, or its declared default when the key is missing (`ClientConfig.ofJson_values`).
They disagree on null: the table lets every optional key be null, but the decoders of the flags
and of the two 64-bit durations reject it (`ConfigDecoder.nullRejected`), and a null there fails
the whole read (`ClientConfig.ofJson_null_rejected`). For every other optional key null is the
declared default, so there a null reads as the key missing. -/

namespace TlcpLoad

namespace Json

/-- A value as a field of its kind holds it: a number field holds every number as a double. -/
def asKind (v : Json) : FieldKind → Json
  | .number => match v.asFloat? with
    | some x => .number (.float x)
    | none => v
  | _ => v

end Json

namespace ClientConfig

/-- The configuration's values as JSON, key by key in the order of `Schema.fields`; an optional
    value that is missing is null. -/
def values (c : ClientConfig) : List Json :=
  let text (s : Option String) : Json := s.elim .null .string
  let nat (n : Option Nat) : Json := n.elim .null fun n => .number (.nat n)
  [.string c.protocol, .string c.host, .number (.nat c.port), .string c.adapterSetName,
    text c.dataAdapterName, text c.user, text c.password, .number (.nat c.numberOfSessions),
    .number (.nat c.itemsPerSession), .bool c.itemRandomExtraction, nat c.firstItemAvailable,
    nat c.lastItemAvailable, .number (.nat c.sessionDurationSeconds),
    .number (.nat c.delaySessionStartMillis), .number (.nat c.minCreatePool),
    .number (.nat c.serverPorts), .bool c.lastRecentUsed, .bool c.ignoreData,
    .bool c.speedUpReading, .bool c.useRawSocket, .number (.nat c.numberOfItems),
    .number (.nat c.numberOfFields), .string c.subscriptionMode, .bool c.unfilteredSubscription,
    c.resamplingFrequency.elim .null fun x => .number (.float x), nat c.resamplingBufferSize]

/-- The configuration with every optional key at its declared default; the mandatory keys, which
    have none, are left empty. -/
def declared : ClientConfig :=
  { protocol := "", host := "", port := 0, adapterSetName := "", numberOfSessions := 0,
    itemsPerSession := 0, minCreatePool := 0, serverPorts := 0, numberOfItems := 0,
    numberOfFields := 0, subscriptionMode := "" }

end ClientConfig

namespace ConfigDecoder

/-- The keys whose decoder rejects null although the schema lets them be null: the flags and
    the two 64-bit durations. -/
def nullRejected : List String :=
  ["itemRandomExtraction", "sessionDurationSeconds", "delaySessionStartMillis", "lastRecentUsed",
    "ignoreData", "speedUpReading", "useRawSocket", "unfilteredSubscription"]

/-- The bits of the field a key's integer is read into. -/
def width (key : String) : Nat :=
  if key = "port" then 16
  else if key ∈ ["numberOfSessions", "itemsPerSession", "firstItemAvailable",
      "lastItemAvailable", "numberOfItems", "numberOfFields", "resamplingBufferSize"] then 32
  else 64

/-- An entry the decoders can read: null for an optional key that may be null, or a value of
    the key's kind that fits its field. Keys outside the schema can hold anything. -/
def Readable (key : String) (v : Json) : Prop :=
  match Schema.fields.find? (·.name = key) with
  | none => True
  | some spec =>
    (v = .null ∧ spec.mandatory = false ∧ key ∉ nullRejected) ∨
      (spec.kind.accepts v = true ∧ ∀ n, v = .number (.nat n) → n < Nat.pow 2 (width key))

namespace Partial

/-- The values read so far as JSON, key by key in the order of `Schema.fields`; a missing value
    is null. -/
def values (p : Partial) : List Json :=
  let text (s : Option String) : Json := s.elim .null .string
  let nat (n : Option Nat) : Json := n.elim .null fun n => .number (.nat n)
  [text p.protocol, text p.host, nat p.port, text p.adapterSetName, text p.dataAdapterName,
    text p.user, text p.password, nat p.numberOfSessions, nat p.itemsPerSession,
    .bool p.itemRandomExtraction, nat p.firstItemAvailable, nat p.lastItemAvailable,
    .number (.nat p.sessionDurationSeconds), .number (.nat p.delaySessionStartMillis),
    nat p.minCreatePool, nat p.serverPorts, .bool p.lastRecentUsed, .bool p.ignoreData,
    .bool p.speedUpReading, .bool p.useRawSocket, nat p.numberOfItems, nat p.numberOfFields, text p.subscriptionMode,
    .bool p.unfilteredSubscription, p.resamplingFrequency.elim .null fun x => .number (.float x),
    nat p.resamplingBufferSize]

end Partial

open Partial in
/-- Reading one entry sets the value of its key, as the key's kind holds it, and leaves every
    other value alone; an entry of a key outside the schema changes nothing. -/
theorem readEntry_values (p : Partial) (key : String) (v : Json) (hv : Readable key v) :
    ∃ p', readEntry p (key, v) = .ok p' ∧
      p'.values = List.zipWith (fun spec old => if key = spec.name then v.asKind spec.kind else old)
        Schema.fields p.values := by
  dsimp only [readEntry]
  split
  case h_27 =>
    -- a key outside the schema: nothing is read
    refine ⟨p, rfl, ?_⟩
    simp_all [values, Schema.fields]
  all_goals
    -- a key of the schema: the value has the key's kind and fits, or is a null it may be
    simp [Readable, Schema.fields, width, nullRejected] at hv
    rcases v with _ | b | (n | n | x) | s | items | es <;>
      simp [FieldKind.accepts, Json.asFloat?] at hv
  all_goals
    -- its decoder reads it, and the field read is the key's position among the values
    simp only [text, optText, unsigned, optUnsigned, flag, optFloat, Except.map, hv, if_true,
      Json.asFloat?]
    refine ⟨_, rfl, ?_⟩
    simp only [values, Schema.fields, List.zipWith_cons_cons, List.zipWith_nil_left, Json.asKind,
      Json.asFloat?, ↓reduceIte, String.reduceEq, Option.elim_some, Option.elim_none]

theorem lookup_cons_entry (k : String) (v : Json) (rest : List (String × Json)) (name : String) :
    ((k, v) :: rest).lookup name = if name = k then some v else rest.lookup name := by
  by_cases h : name = k
  · subst h
    simp
  · simp [List.lookup_cons, beq_eq_false_iff_ne.2 h, h]

/-- The entry of a key, among entries with distinct keys. -/
theorem lookup_of_mem {entries : List (String × Json)} (hkeys : (entries.map Prod.fst).Nodup)
    {key : String} {v : Json} (h : (key, v) ∈ entries) : entries.lookup key = some v := by
  induction entries with
  | nil => cases h
  | cons e rest ih =>
    obtain ⟨k, w⟩ := e
    obtain ⟨hk, hrest⟩ := List.nodup_cons.1 hkeys
    rw [lookup_cons_entry]
    rcases List.mem_cons.1 h with he | he
    · obtain ⟨rfl, rfl⟩ := Prod.mk.inj he
      simp
    · have hne : key ≠ k := by
        rintro rfl
        exact hk (List.mem_map.2 ⟨_, he, rfl⟩)
      rw [if_neg hne]
      exact ih hrest he

/-- Reading entries with distinct keys gives each key the value of its entry, as the key's kind
    holds it, and leaves the keys without an entry as they were. -/
theorem foldlM_readEntry_values (p : Partial) :
    ∀ entries : List (String × Json), (entries.map Prod.fst).Nodup →
      (∀ e ∈ entries, Readable e.1 e.2) →
      ∃ p', entries.foldlM readEntry p = .ok p' ∧
        p'.values = List.zipWith (fun spec old =>
          (entries.lookup spec.name).elim old (·.asKind spec.kind)) Schema.fields p.values
  | [], _, _ => ⟨p, rfl, by simp [Partial.values, Schema.fields]⟩
  | (k, v) :: rest, hkeys, hv => by
    obtain ⟨hk, hrest⟩ := List.nodup_cons.1 hkeys
    obtain ⟨p₁, h₁, hv₁⟩ := readEntry_values p k v (hv _ List.mem_cons_self)
    obtain ⟨p', h', hv'⟩ := foldlM_readEntry_values p₁ rest hrest
      (fun e he => hv e (List.mem_cons_of_mem _ he))
    refine ⟨p', by rw [List.foldlM_cons, h₁]; exact h', ?_⟩
    rw [hv', hv₁, List.zipWith_zipWith_right, List.zipWith3_same_left]
    -- no later entry has the first entry's key, so the rest leaves its value
    congr 1
    funext spec old
    rw [lookup_cons_entry]
    by_cases hname : spec.name = k
    · have hnone : rest.lookup spec.name = none := by
        rw [List.lookup_eq_none_iff]
        intro e he
        rw [bne_iff_ne, hname]
        rintro rfl
        exact hk (List.mem_map.2 ⟨e, he, rfl⟩)
      simp only [if_pos hname, if_pos hname.symm, hnone, Option.elim_some, Option.elim_none]
    · simp [hname, Ne.symm hname]

theorem forM_eq_ok {α ε : Type} {f : α → Except ε Unit} :
    ∀ {l : List α}, l.forM f = .ok () → ∀ a ∈ l, f a = .ok ()
  | [], _, _, ha => nomatch ha
  | b :: l, h, a, ha => by
    change f b >>= (fun _ => l.forM f) = .ok () at h
    obtain ⟨⟨⟩, hb, hrest⟩ := Except.bind_eq_ok h
    rcases List.mem_cons.1 ha with rfl | ha
    · exact hb
    · exact forM_eq_ok hrest a ha

/-- What the table accepts, the decoders can read, once the integers fit their fields and no key
    whose decoder rejects null holds null. -/
theorem readable_of_validateRaw {entries : List (String × Json)}
    (hkeys : (entries.map Prod.fst).Nodup) (hvalid : validateRaw (.object entries) = .ok ())
    (hfit : ∀ spec ∈ Schema.fields, ∀ n, (spec.name, .number (.nat n)) ∈ entries →
      n < Nat.pow 2 (width spec.name))
    (hnull : ∀ key ∈ nullRejected, (key, Json.null) ∉ entries) :
    ∀ e ∈ entries, Readable e.1 e.2 := by
  rintro ⟨key, v⟩ he
  unfold Readable
  split
  · trivial
  · rename_i spec hfind
    have hspec : spec ∈ Schema.fields := List.mem_of_find?_eq_some hfind
    have hname : spec.name = key := by simpa using List.find?_some hfind
    have hcheck : spec.check (.object entries) = .ok () := forM_eq_ok hvalid spec hspec
    subst hname
    simp only [FieldSpec.check, Json.get?, lookup_of_mem hkeys he] at hcheck
    by_cases hv : v = .null
    · -- a null: the table takes it for an optional key only
      subst hv
      refine .inl ⟨rfl, ?_, fun hrej => hnull _ hrej he⟩
      simpa using hcheck
    · -- a value: the table checked its kind
      refine .inr ⟨?_, fun n hn => hfit spec hspec n (hn ▸ he)⟩
      -- the arms for a missing key and for null do not apply
      split at hcheck <;> simp_all

theorem exists_of_elim_ne_null {α : Type} {o : Option α} {f : α → Json}
    (h : ¬o.elim .null f = .null) : ∃ x, o = some x := by
  cases o with
  | none => exact absurd rfl h
  | some x => exact ⟨x, rfl⟩

/-- The fields read make a configuration once every mandatory one has a value. -/
theorem finish_of_values {p : Partial}
    (h : ∀ x ∈ Schema.fields.zip p.values, x.1.mandatory = true → x.2 ≠ .null) :
    ∃ c : ClientConfig, p.finish = .ok c ∧ c.values = p.values := by
  rcases p with ⟨protocol, host, port, adapterSetName, dataAdapterName, user, password,
    numberOfSessions, itemsPerSession, itemRandomExtraction, firstItemAvailable, lastItemAvailable,
    sessionDurationSeconds, delaySessionStartMillis, minCreatePool, serverPorts, lastRecentUsed,
    ignoreData, speedUpReading, useRawSocket, numberOfItems, numberOfFields, subscriptionMode,
    unfilteredSubscription, resamplingFrequency, resamplingBufferSize⟩
  simp [Schema.fields, Partial.values] at h
  obtain ⟨h₁, h₂, h₃, h₄, h₅, h₆, h₇, h₈, h₉, h₁₀, h₁₁⟩ := h
  obtain ⟨protocol, rfl⟩ := exists_of_elim_ne_null h₁
  obtain ⟨host, rfl⟩ := exists_of_elim_ne_null h₂
  obtain ⟨port, rfl⟩ := exists_of_elim_ne_null h₃
  obtain ⟨adapterSetName, rfl⟩ := exists_of_elim_ne_null h₄
  obtain ⟨numberOfSessions, rfl⟩ := exists_of_elim_ne_null h₅
  obtain ⟨itemsPerSession, rfl⟩ := exists_of_elim_ne_null h₆
  obtain ⟨minCreatePool, rfl⟩ := exists_of_elim_ne_null h₇
  obtain ⟨serverPorts, rfl⟩ := exists_of_elim_ne_null h₈
  obtain ⟨numberOfItems, rfl⟩ := exists_of_elim_ne_null h₉
  obtain ⟨numberOfFields, rfl⟩ := exists_of_elim_ne_null h₁₀
  obtain ⟨subscriptionMode, rfl⟩ := exists_of_elim_ne_null h₁₁
  exact ⟨_, rfl, rfl⟩

/-- A null where the decoder rejects it fails the read of that entry, whatever was read before. -/
theorem readEntry_null_rejected (p : Partial) {key : String} (hkey : key ∈ nullRejected) :
    ∃ e, readEntry p (key, .null) = .error e := by
  simp only [nullRejected, List.mem_cons, List.not_mem_nil, or_false] at hkey
  rcases hkey with rfl | rfl | rfl | rfl | rfl | rfl | rfl | rfl <;> exact ⟨_, rfl⟩

/-- An entry that cannot be read fails the read of every list of entries holding it. -/
theorem foldlM_error_of_mem {x : String × Json} (hx : ∀ p, ∃ e, readEntry p x = .error e) :
    ∀ (entries : List (String × Json)) (p : Partial), x ∈ entries →
      ∃ e, entries.foldlM readEntry p = .error e
  | [], _, hmem => nomatch hmem
  | y :: rest, p, hmem => by
    rw [List.foldlM_cons]
    cases hy : readEntry p y with
    | error e => exact ⟨e, rfl⟩
    | ok p₁ =>
      rcases List.mem_cons.1 hmem with rfl | hrest
      · obtain ⟨e, he⟩ := hx p
        rw [he] at hy
        cases hy
      · exact foldlM_error_of_mem hx rest p₁ hrest

end ConfigDecoder

theorem mem_zip_zipWith {α β γ : Type} {g : α → β → γ} :
    ∀ {l : List α} {m : List β} {x : α × γ}, x ∈ l.zip (List.zipWith g l m) → ∃ b, x.2 = g x.1 b
  | [], _, _, hx => nomatch hx
  | _ :: _, [], _, hx => nomatch hx
  | a :: l, b :: m, x, hx => by
    rcases List.mem_cons.1 hx with rfl | hx
    · exact ⟨b, rfl⟩
    · exact mem_zip_zipWith hx

theorem zipWith_congr_of_mem_zip {α β γ : Type} {f g : α → β → γ} :
    ∀ {l : List α} {m m' : List β}, m.length = m'.length →
      (∀ x ∈ l.zip (m.zip m'), f x.1 x.2.1 = g x.1 x.2.2) →
      List.zipWith f l m = List.zipWith g l m'
  | [], _, _, _, _ => rfl
  | _ :: _, [], [], _, _ => rfl
  | _ :: _, [], _ :: _, hlen, _ => nomatch hlen
  | _ :: _, _ :: _, [], hlen, _ => nomatch hlen
  | a :: l, b :: m, b' :: m', hlen, h => by
    rw [List.zipWith_cons_cons, List.zipWith_cons_cons,
      h (a, b, b') List.mem_cons_self,
      zipWith_congr_of_mem_zip (Nat.succ.inj hlen) fun x hx => h x (List.mem_cons_of_mem _ hx)]

@[simp] theorem Json.null_asKind (kind : FieldKind) : Json.null.asKind kind = .null := by
  cases kind <;> rfl

theorem Json.asKind_ne_null {v : Json} (hv : v ≠ .null) (kind : FieldKind) :
    v.asKind kind ≠ .null := by
  cases kind with
  | number =>
    simp only [Json.asKind]
    split <;> simp_all
  | text | integer | flag => exact hv

namespace ConfigDecoder

/-- A table that accepts an object finds a value, not null, for every mandatory key. -/
theorem mandatory_present {entries : List (String × Json)}
    (hvalid : validateRaw (.object entries) = .ok ()) :
    ∀ spec ∈ Schema.fields, spec.mandatory = true →
      ∃ v, entries.lookup spec.name = some v ∧ v ≠ .null := by
  intro spec hspec hmand
  have hcheck : spec.check (.object entries) = .ok () := forM_eq_ok hvalid spec hspec
  simp only [FieldSpec.check, Json.get?, hmand, if_true] at hcheck
  split at hcheck
  · cases hcheck
  · cases hcheck
  · rename_i v hnull hv
    exact ⟨v, hv, fun h => hnull h⟩

/-- The decoder starts every optional field at its declared default, and that default is null
    for every key whose decoder takes null. -/
theorem optional_defaults :
    ∀ x ∈ Schema.fields.zip (({} : Partial).values.zip ClientConfig.declared.values),
      x.1.mandatory = false → x.2.1 = x.2.2 ∧ (x.1.name ∉ nullRejected → x.2.2 = .null) := by
  simp [Schema.fields, Partial.values, ClientConfig.values, ClientConfig.declared, nullRejected]

end ConfigDecoder

namespace ClientConfig

open ConfigDecoder

/-- Reading an object with one entry per key that the table accepts, whose integers fit their
    fields and with no null where a decoder rejects it, gives every key the value of its entry,
    as its kind holds it, and a missing key its declared default. -/
theorem ofJson_values {entries : List (String × Json)} (hkeys : (entries.map Prod.fst).Nodup)
    (hvalid : validateRaw (.object entries) = .ok ())
    (hfit : ∀ spec ∈ Schema.fields, ∀ n, (spec.name, .number (.nat n)) ∈ entries →
      n < Nat.pow 2 (width spec.name))
    (hnull : ∀ key ∈ nullRejected, (key, Json.null) ∉ entries) :
    ∃ c, ofJson (.object entries) = .ok c ∧
      c.values = List.zipWith
        (fun spec old => (entries.lookup spec.name).elim old (·.asKind spec.kind))
        Schema.fields ({} : Partial).values := by
  obtain ⟨p, hp, hvalues⟩ := foldlM_readEntry_values {} entries hkeys
    (readable_of_validateRaw hkeys hvalid hfit hnull)
  -- every mandatory key has a value that is not null, so the fields read make a configuration
  have hset : ∀ x ∈ Schema.fields.zip p.values, x.1.mandatory = true → x.2 ≠ .null := by
    intro x hx hmand
    rw [hvalues] at hx
    obtain ⟨old, hold⟩ := mem_zip_zipWith hx
    obtain ⟨v, hv, hnv⟩ := mandatory_present hvalid x.1 (List.of_mem_zip hx).1 hmand
    rw [hold, hv]
    exact Json.asKind_ne_null hnv x.1.kind
  obtain ⟨c, hc, hcvalues⟩ := finish_of_values hset
  exact ⟨c, by simp only [ofJson, hp, bind, Except.bind, hc], hcvalues.trans hvalues⟩

/-- A null where a decoder rejects it fails the read of the whole object. -/
theorem ofJson_null_rejected (entries : List (String × Json)) {key : String}
    (hkey : key ∈ nullRejected) (hmem : (key, Json.null) ∈ entries) :
    ∃ e, ofJson (.object entries) = .error e := by
  obtain ⟨e, he⟩ := foldlM_error_of_mem (fun p => readEntry_null_rejected p hkey) entries {} hmem
  exact ⟨e, by simp only [ofJson, he, bind, Except.bind]⟩

/-- The schema table and the decoders agree on which keys are mandatory and on the kind of
    each: an object the table accepts, with one entry per key, integers that fit their fields
    and no null where a decoder rejects it, reads into a configuration with each key's value, or
    its declared default when the key is missing or null. -/
theorem ofJson_reads_accepted_objects (entries : List (String × Json))
    (hkeys : (entries.map Prod.fst).Nodup) (hvalid : validateRaw (.object entries) = .ok ())
    (hfit : ∀ spec ∈ Schema.fields, ∀ n, (spec.name, .number (.nat n)) ∈ entries →
      n < Nat.pow 2 (width spec.name))
    (hnull : ∀ key ∈ nullRejected, (key, Json.null) ∉ entries) :
    ∃ c, ofJson (.object entries) = .ok c ∧
      c.values = List.zipWith (fun spec d => match entries.lookup spec.name with
        | none | some .null => d
        | some v => v.asKind spec.kind) Schema.fields declared.values := by
  obtain ⟨c, hc, hvalues⟩ := ofJson_values hkeys hvalid hfit hnull
  refine ⟨c, hc, hvalues.trans (zipWith_congr_of_mem_zip rfl fun x hx => ?_)⟩
  have hspec := (List.of_mem_zip hx).1
  -- a key missing or null is an optional one: the table requires the mandatory ones
  have hoptional : (entries.lookup x.1.name = none ∨ entries.lookup x.1.name = some .null) →
      x.1.mandatory = false := by
    intro hlookup
    cases hmand : x.1.mandatory with
    | false => rfl
    | true =>
      obtain ⟨v, hv, hnv⟩ := mandatory_present hvalid x.1 hspec hmand
      rcases hlookup with hlookup | hlookup <;> rw [hv] at hlookup <;> cases hlookup
      exact absurd rfl hnv
  cases hlookup : entries.lookup x.1.name with
  | none =>
    -- missing: the field keeps the decoder's start, the declared default
    exact (optional_defaults x hx (hoptional (.inl hlookup))).1
  | some v =>
    by_cases hv : v = .null
    · -- null: read as none, which is the declared default of a key that may be null
      subst hv
      have hmem : (x.1.name, Json.null) ∈ entries := by
        obtain ⟨l₁, l₂, hl, -⟩ := List.lookup_eq_some_iff.1 hlookup
        simp [hl]
      have hrej : x.1.name ∉ nullRejected := fun hrej => hnull _ hrej hmem
      show Json.null.asKind x.1.kind = x.2.2
      rw [Json.null_asKind]
      exact ((optional_defaults x hx (hoptional (.inr hlookup))).2 hrej).symm
    · -- a value: read as its kind holds it
      split <;> simp_all

theorem reads_sample_object :
    let entries : List (String × Json) :=
      [("adapterSetName", .string "LOAD_TEST"), ("host", .string "localhost"),
        ("itemsPerSession", .number (.nat 5)), ("minCreatePool", .number (.nat 2)),
        ("numberOfFields", .number (.nat 10)), ("numberOfItems", .number (.nat 500)),
        ("numberOfSessions", .number (.nat 100)), ("port", .number (.nat 8080)),
        ("protocol", .string "ws://"), ("serverPorts", .number (.nat 3)),
        ("subscriptionMode", .string "MERGE"), ("user", .null)]
    (entries.map Prod.fst).Nodup ∧ validateRaw (.object entries) = .ok () ∧
    (∀ spec ∈ Schema.fields, ∀ n, (spec.name, .number (.nat n)) ∈ entries →
      n < Nat.pow 2 (width spec.name)) ∧
    (∀ key ∈ nullRejected, (key, Json.null) ∉ entries) ∧
    ∃ c, ofJson (.object entries) = .ok c ∧
      c.values = List.zipWith (fun spec d => match entries.lookup spec.name with
        | none | some .null => d
        | some v => v.asKind spec.kind) Schema.fields declared.values := by
  intro entries
  have hkeys : (entries.map Prod.fst).Nodup := by decide
  have hvalid : validateRaw (.object entries) = .ok () := by decide
  have hfit : ∀ spec ∈ Schema.fields, ∀ n, (spec.name, .number (.nat n)) ∈ entries →
      n < Nat.pow 2 (width spec.name) := by
    intro spec _ n hn
    simp only [entries, List.mem_cons, Prod.mk.injEq, List.not_mem_nil, or_false] at hn
    rcases hn with ⟨-, h⟩ | ⟨-, h⟩ | ⟨h, h'⟩ | ⟨h, h'⟩ | ⟨h, h'⟩ | ⟨h, h'⟩ | ⟨h, h'⟩ | ⟨h, h'⟩ |
      ⟨-, h⟩ | ⟨h, h'⟩ | ⟨-, h⟩ | ⟨-, h⟩ <;> simp_all [width]
  have hnull : ∀ key ∈ nullRejected, (key, Json.null) ∉ entries := by
    simp [entries, nullRejected]
  exact ⟨hkeys, hvalid, hfit, hnull, ofJson_reads_accepted_objects entries hkeys hvalid hfit hnull⟩

end ClientConfig

end TlcpLoad