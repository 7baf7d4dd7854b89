import Mathlib.Data.Finset.Card
import Metrology.Proofs.System.Preset
import Metrology.Proofs.Traversal

namespace Metrology

/-- A call that registers an entry under a symbol. -/
structure Registration where
  symbol : String
  entry : Operand

namespace Registration

def key (c : Registration) : String :=
  symbolKey c.symbol

/-- The entry of the last call for a key. -/
def latest? (key : String) (calls : List Registration) : Option Operand :=
  (calls.reverse.find? (·.key = key)).map (·.entry)

theorem latest?_concat (key : String) (calls : List Registration) (c : Registration) :
    latest? key (calls ++ [c]) = if key = c.key then some c.entry else latest? key calls := by
  unfold latest?
  rw [List.reverse_concat, List.find?_cons]
  by_cases h : key = c.key
  · simp [h]
  · simp [h, Ne.symm h]

/-- The call for a key that no other call is for. -/
theorem latest?_of_mem {calls : List Registration} (hn : (calls.map (·.key)).Nodup)
    {c : Registration} (hc : c ∈ calls) : latest? c.key calls = some c.entry := by
  unfold latest?
  cases hf : calls.reverse.find? (·.key = c.key) with
  | none =>
    have hne := List.find?_eq_none.mp hf c (List.mem_reverse.mpr hc)
    simp at hne
  | some d =>
    have hd : d ∈ calls := List.mem_reverse.mp (List.mem_of_find?_eq_some hf)
    have hk : d.key = c.key := by simpa using List.find?_some hf
    rw [List.inj_on_of_nodup_map hn hd hc hk]
    rfl

end Registration

open Registration

/-- Whether a registry is what some calls lead to. -/
structure Registry.Records (r : Registry Operand) (calls : List Registration) : Prop where
  distinct : r.keys.Nodup
  keys : r.keys = (calls.map (·.key)).eraseDups
  found : ∀ key, r.find? key = latest? key calls

namespace Registry

theorem records_empty : Records {} [] :=
  ⟨.nil, rfl, fun _ => rfl⟩

variable {r : Registry Operand} {calls : List Registration}

/-- A name keeps the place where it first came. -/
theorem eraseDups_concat (names : List String) (name : String) :
    (names ++ [name]).eraseDups =
      if name ∈ names then names.eraseDups else names.eraseDups ++ [name] := by
  rw [List.eraseDups_append]
  by_cases h : name ∈ names <;> simp [List.removeAll, List.filter, h, List.eraseDups_cons]

/-- The step: a call for a known key leaves the keys as they are, and one for a new key puts it
last. -/
theorem Records.insert (h : r.Records calls) (c : Registration) :
    (r.insert c.key c.entry).Records (calls ++ [c]) := by
  refine ⟨nodup_keys_bind h.distinct, ?_, fun key => ?_⟩
  · rw [keys_insert, List.map_append, List.map_singleton, eraseDups_concat, h.keys]
    simp only [List.mem_eraseDups]
  · rw [find?_insert, latest?_concat, h.found]

/-- The keys and the look-up tell the entries. -/
theorem entries_eq (h : r.keys.Nodup) :
    r.entries.map (fun e => (e.1, some e.2)) = r.keys.map fun key => (key, r.find? key) := by
  rw [keys, List.map_map]
  refine List.map_congr_left fun e he => ?_
  exact congrArg (e.1, ·) (find?_of_mem h he).symm

end Registry

namespace UnitSystem

/-- Some calls, one after the other. -/
def registerAll (s : UnitSystem) (calls : List Registration) : UnitSystem :=
  calls.foldl (fun s c => s.register c.symbol c.entry) s

theorem registerAll_append (s : UnitSystem) (calls further : List Registration) :
    s.registerAll (calls ++ further) = (s.registerAll calls).registerAll further :=
  List.foldl_append

theorem map_registerAll (s : UnitSystem) (calls : List Registration)
    (further : Except Failure (List Registration)) :
    further.map (s.registerAll calls).registerAll =
      (further.map (calls ++ ·)).map s.registerAll := by
  cases further with
  | error failure => rfl
  | ok further => exact congrArg Except.ok (s.registerAll_append calls further).symm

/-- The run: by induction from the last call on. -/
theorem records_registerAll (base : BaseUnits) (number : NumberKind) (calls : List Registration) :
    (registerAll ⟨base, number, {}⟩ calls).registry.Records calls := by
  induction calls using List.reverseRecOn with
  | nil => exact Registry.records_empty
  | append_singleton calls c ih =>
    rw [registerAll_append]
    exact ih.insert c

/-- What a system answers about a symbol that is bound to an entry, or to none. -/
inductive Answers (s : UnitSystem) (symbol : String) : Option Operand → Prop
  | bound {entry : Operand} (contains : s.contains symbol = true)
      (lookup : s.lookup symbol = .ok entry)
      (get : ∀ default, (s.get? symbol).getD default = entry)
      (replaced : s.replaced symbol = entry) : Answers s symbol (some entry)
  | absent (contains : s.contains symbol = false)
      (lookup : s.lookup symbol = .error (.unknownUnit symbol))
      (get : ∀ default, (s.get? symbol).getD default = default)
      (replaced : s.replaced symbol = .null) : Answers s symbol none

theorem answers_get? (s : UnitSystem) (symbol : String) : s.Answers symbol (s.get? symbol) := by
  cases h : s.get? symbol with
  | none =>
    refine .absent ?_ (by rw [lookup, h]) (fun default => by rw [h]; rfl) (by rw [replaced, h]; rfl)
    rw [contains, h]
    rfl
  | some entry =>
    refine .bound ?_ (by rw [lookup, h]) (fun default => by rw [h]; rfl) (by rw [replaced, h]; rfl)
    rw [contains, h]
    rfl

/-- Whether a system neither tells two symbols apart nor comes to do so by a registration. -/
structure Indistinct (s : UnitSystem) (a b : String) : Prop where
  get : s.get? a = s.get? b
  contains : s.contains a = s.contains b
  lookup : (s.lookup a).toOption = (s.lookup b).toOption
  replaced : s.replaced a = s.replaced b
  register : ∀ entry, s.register a entry = s.register b entry

theorem indistinct (s : UnitSystem) {a b : String} (h : symbolKey a = symbolKey b) :
    s.Indistinct a b := by
  have hg : s.get? a = s.get? b := by rw [get?, get?, h]
  refine ⟨hg, by rw [contains, contains, hg], ?_, by rw [replaced, replaced, hg], fun entry => ?_⟩
  · rw [lookup, lookup, hg]
    cases s.get? b <;> rfl
  · rw [register, register, h]

/-- Whether a system holds what some calls lead to, and answers by it. -/
structure Reflects (s : UnitSystem) (calls : List Registration) : Prop
    extends s.registry.Records calls where
  entries : s.registry.entries.map (fun e => (e.1, some e.2)) =
    (calls.map (·.key)).eraseDups.map fun key => (key, latest? key calls)
  size : s.registry.size = (calls.map (·.key)).toFinset.card
  answers : ∀ symbol, s.Answers symbol (latest? (symbolKey symbol) calls)
  indistinct : ∀ a b, symbolKey a = symbolKey b → s.Indistinct a b

theorem reflects_of_records {s : UnitSystem} {calls : List Registration}
    (h : s.registry.Records calls) : s.Reflects calls := by
  refine { h with
    entries := ?_
    size := ?_
    answers := fun symbol => ?_
    indistinct := fun a b hk => s.indistinct hk }
  · rw [Registry.entries_eq h.distinct, h.keys]
    exact List.map_congr_left fun key _ => congrArg (key, ·) (h.found key)
  · have hset : (calls.map (·.key)).toFinset = s.registry.keys.toFinset := by
      ext key
      rw [h.keys, List.mem_toFinset, List.mem_toFinset, List.mem_eraseDups]
    rw [hset, List.toFinset_card_of_nodup h.distinct]
    exact (List.length_map ..).symm
  · rw [← h.found]
    exact s.answers_get? symbol

/-- The calls that register the base units. -/
def baseCalls (base : BaseUnits) (number : NumberKind) : List Registration :=
  base.items.map fun item => ⟨item.1, .unit (.base item.2 number)⟩

theorem withBase_eq (base : BaseUnits) (number : NumberKind) :
    withBase base number = registerAll ⟨base, number, {}⟩ (baseCalls base number) := by
  unfold withBase registerAll baseCalls
  rw [List.foldl_map]

/-- The call that registers a unit of the preset, if its factor can be read. -/
def presetCall (number : NumberKind) (item : String × String × Dimension) :
    Except Failure Registration := do
  return ⟨item.1, .unit ⟨item.2.2, ← number.read item.2.1⟩⟩

theorem addPreset_eq (s : UnitSystem) (item : String × String × Dimension) :
    addPreset s item = (presetCall s.number item).map fun c => s.register c.symbol c.entry := by
  unfold addPreset presetCall
  cases s.number.read item.2.1 <;> rfl

theorem foldlM_addPreset (s : UnitSystem) (items : List (String × String × Dimension)) :
    items.foldlM addPreset s = (items.mapM (presetCall s.number)).map s.registerAll := by
  induction items generalizing s with
  | nil => rfl
  | cons item items ih =>
    rw [List.foldlM_cons, addPreset_eq, List.mapM_cons]
    cases presetCall s.number item with
    | error failure => rfl
    | ok c =>
      change items.foldlM addPreset (s.register c.symbol c.entry) = _
      rw [ih]
      change (items.mapM (presetCall s.number)).map _ = _
      cases items.mapM (presetCall s.number) <;> rfl

/-- The calls that the preset is constructed by. -/
def siCalls (number : NumberKind) : Except Failure (List Registration) :=
  (presetUnits.mapM (presetCall number)).map (baseCalls .si number ++ ·)

theorem si_eq (number : NumberKind) :
    si number = (siCalls number).map (registerAll ⟨.si, number, {}⟩) := by
  have hn : (withBase .si number).number = number := rfl
  unfold si siCalls
  rw [foldlM_addPreset, hn, withBase_eq, map_registerAll]

/-- Whether a system that some calls of its own have led to holds what these and further calls lead
to, and each of the further calls returns what the last call for its key had registered. -/
structure Remembers (s : UnitSystem) (own calls : List Registration) : Prop where
  reflects : (s.registerAll calls).Reflects (own ++ calls)
  returned : ∀ k c, calls[k]? = some c →
    (s.registerAll (calls.take k)).replaced c.symbol =
      (latest? c.key (own ++ calls.take k)).getD .null

theorem remembers_registerAll (base : BaseUnits) (number : NumberKind)
    (own calls : List Registration) :
    (registerAll ⟨base, number, {}⟩ own).Remembers own calls := by
  have hreflects (further : List Registration) :
      ((registerAll ⟨base, number, {}⟩ own).registerAll further).Reflects (own ++ further) := by
    rw [← registerAll_append]
    exact reflects_of_records (records_registerAll base number (own ++ further))
  refine ⟨hreflects calls, fun k c _ => ?_⟩
  rw [replaced, get?, (hreflects (calls.take k)).found]
  rfl

/-- After any calls a system lists each key once, where it was first registered, with the entry of
its last call. It answers every question about a symbol by the last call for the key of the symbol,
and so does each call by the ones before. The calls by which the system was constructed count. -/
theorem registry_after_calls (base : BaseUnits) (number : NumberKind)
    (calls : List Registration) :
    Remembers ⟨base, number, {}⟩ [] calls ∧
      (withBase base number).Remembers (baseCalls base number) calls ∧
      ∀ s, si number = .ok s → ∃ own, siCalls number = .ok own ∧ s.Remembers own calls := by
  refine ⟨remembers_registerAll base number [] calls, ?_, fun s hs => ?_⟩
  · rw [withBase_eq]
    exact remembers_registerAll base number (baseCalls base number) calls
  · rw [si_eq] at hs
    obtain ⟨own, hown, rfl⟩ := map_eq_ok.mp hs
    exact ⟨own, hown, remembers_registerAll .si number own calls⟩

def angstromSign : Registration :=
  ⟨"\u212b", .unit (.base 0 .ratio)⟩

def angstromLetter : Registration :=
  ⟨"\u00c5", .unit ⟨.power .length 1, .number (.ratio (1 / 10 ^ 10))⟩⟩

/-- The sign and the letter have one key, which is also that of the letter with its ring apart. -/
theorem registry_after_calls_angstrom : ∃ s, si .ratio = .ok s ∧
    (s.registerAll [angstromSign]).replaced angstromLetter.symbol = angstromSign.entry ∧
    (s.registerAll [angstromSign, angstromLetter]).lookup "A\u030a" =
      .ok angstromLetter.entry := by
  obtain ⟨s, hs, -⟩ : ∃ s, si .ratio = .ok s ∧ s.number = .ratio :=
    si_induction (by decide) rfl (fun _ _ h => h) (fun _ h => h) fun _ _ _ _ _ _ h => h
  obtain ⟨-, -, hsi⟩ := registry_after_calls .si .ratio [angstromSign, angstromLetter]
  obtain ⟨own, -, h⟩ := hsi s hs
  refine ⟨s, hs, ?_, ?_⟩
  · have hk : angstromLetter.key = angstromSign.key := by decide +kernel
    have hr := h.returned 1 angstromLetter rfl
    rwa [List.take_one, List.head?_cons, Option.toList_some, latest?_concat, if_pos hk] at hr
  · have hk : symbolKey "A\u030a" = angstromLetter.key := by decide +kernel
    have ha := h.reflects.answers "A\u030a"
    rw [List.append_cons, latest?_concat, if_pos hk] at ha
    cases ha with
    | bound _ hl _ _ => exact hl

end UnitSystem

end Metrology
