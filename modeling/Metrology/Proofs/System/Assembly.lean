import Metrology.Expression.Scanner
import Metrology.Proofs.System.Closest
import Metrology.Proofs.System.Preset
import Metrology.Proofs.Text.Canonical.Division
import Metrology.Proofs.Text.Classes

namespace Metrology

/-- Whether the key of a symbol is a word. -/
def Spelled (symbol : String) : Prop :=
  (symbolKey symbol).toList ≠ [] ∧ ∀ c ∈ (symbolKey symbol).toList, Text.isLetter c = true

-- The letters are checked one by one, as opposed to an instance that runs over all characters.
instance (symbol : String) : Decidable (Spelled symbol) :=
  @instDecidableAnd _ _ inferInstance
    (List.decidableBAll (Text.isLetter · = true) (symbolKey symbol).toList)

theorem symbolKey_symbolKey (symbol : String) : symbolKey (symbolKey symbol) = symbolKey symbol :=
  Text.canonical_canonical symbol

namespace UnitSystem

section

variable {α : Type} {operand : α → Operand} {s : UnitSystem} {es : List (String × α)}

/-- Whether the entries of a system are some units, each under a canonical key of letters that no
other one has. -/
structure Catalogues (operand : α → Operand) (s : UnitSystem) (es : List (String × α)) : Prop where
  entries : s.registry.entries = es.map fun e => (e.1, operand e.2)
  distinct : (es.map (·.1)).Nodup
  keyed : ∀ e ∈ es, symbolKey e.1 = e.1
  spelled : ∀ e ∈ es, Spelled e.1

theorem catalogues_empty (operand : α → Operand) (base : BaseUnits) (number : NumberKind) :
    Catalogues operand ⟨base, number, {}⟩ [] :=
  ⟨rfl, .nil, by simp, by simp⟩

theorem bind_map (operand : α → Operand) (key : String) (u : α) (es : List (String × α)) :
    Registry.bind key (operand u) (es.map fun e => (e.1, operand e.2)) =
      (Registry.bind key u es).map fun e => (e.1, operand e.2) := by
  induction es with
  | nil => rfl
  | cons e es ih =>
    rw [List.map_cons, Registry.bind, Registry.bind]
    split
    · rfl
    · rw [ih]
      rfl

theorem Catalogues.register (h : s.Catalogues operand es) {symbol : String} (hk : Spelled symbol)
    (u : α) : (s.register symbol (operand u)).Catalogues operand
      (Registry.bind (symbolKey symbol) u es) := by
  have hkey : Spelled (symbolKey symbol) := by
    unfold Spelled
    rw [symbolKey_symbolKey]
    exact hk
  refine ⟨?_, Registry.nodup_keys_bind h.distinct, ?_, ?_⟩
  · change Registry.bind _ _ s.registry.entries = _
    rw [h.entries, bind_map operand]
  · intro e he
    rcases Registry.mem_bind he with rfl | he
    · exact symbolKey_symbolKey symbol
    · exact h.keyed e he
  · intro e he
    rcases Registry.mem_bind he with rfl | he
    · exact hkey
    · exact h.spelled e he

/-- An entry is found under its key. -/
theorem Catalogues.get?_entry (h : s.Catalogues operand es) {e : String × α} (he : e ∈ es) :
    s.get? e.1 = some (operand e.2) := by
  have hn : s.registry.keys.Nodup := by
    rw [Registry.keys, h.entries, List.map_map]
    exact h.distinct
  have hm : (e.1, operand e.2) ∈ s.registry.entries := by
    rw [h.entries]
    exact List.mem_map.mpr ⟨e, he, rfl⟩
  rw [get?, h.keyed e he]
  exact Registry.find?_of_mem hn hm

/-- A key is a word, so that no blank stands in front of it. -/
theorem Catalogues.word_key (h : s.Catalogues operand es) {e : String × α} (he : e ∈ es) :
    e.1.toList ≠ [] ∧ ∀ c ∈ e.1.toList, Text.isLetter c = true := by
  have hs := h.spelled e he
  unfold Spelled at hs
  rwa [h.keyed e he] at hs

theorem Catalogues.head_key (h : s.Catalogues operand es) {e : String × α} (he : e ∈ es) :
    ∀ c ∈ e.1.toList.head?, Text.isBlank c = false :=
  fun c hc => Text.isBlank_of_isLetter ((h.word_key he).2 c (List.mem_of_mem_head? hc))

/-- What a symbol is bound to is the entry of its key. -/
theorem Catalogues.mem_of_get? (h : s.Catalogues operand es) {symbol : String} {entry : Operand}
    (hg : s.get? symbol = some entry) : ∃ e ∈ es, e.1 = symbolKey symbol ∧ operand e.2 = entry := by
  have hm := UnitSystem.mem_of_get? hg
  rw [h.entries] at hm
  obtain ⟨e, hes, heq⟩ := List.mem_map.mp hm
  obtain ⟨hk, hu⟩ := Prod.mk.inj heq
  exact ⟨e, hes, hk, hu⟩

/-- A bound symbol is a word. -/
theorem Catalogues.spelled_of_get? (h : s.Catalogues operand es) {symbol : String}
    {entry : Operand} (hg : s.get? symbol = some entry) : Spelled symbol := by
  obtain ⟨e, hes, hk, -⟩ := h.mem_of_get? hg
  have hs := h.spelled e hes
  unfold Spelled at hs ⊢
  rwa [h.keyed e hes, hk] at hs

end

/-- The systems over fractions that registrations lead to. -/
inductive Assembled : UnitSystem → Prop
  | si {s : UnitSystem} (h : si .ratio = .ok s) : Assembled s
  | withBase {base : BaseUnits} (h : ∀ axis, Spelled (base.symbol axis)) :
      Assembled (withBase base .ratio)
  | register {s : UnitSystem} {symbol : String} {u : RatioUnit} (hs : Assembled s)
      (hk : Spelled symbol) (hf : 0 < u.factor) : Assembled (s.register symbol u.operand)

/-- Whether the base symbols are still bound to base units. -/
def KeepsBase (s : UnitSystem) : Prop :=
  ∀ axis, s.get? (s.base.symbol axis) = some (RatioUnit.operand ⟨.power axis 1, 1⟩)

/-- What the registry of such a system is like. -/
structure Exact (s : UnitSystem) (es : List (String × RatioUnit)) : Prop where
  number : s.number = .ratio
  entries : s.registry.entries = es.map fun e => (e.1, e.2.operand)
  distinct : (es.map (·.1)).Nodup
  keyed : ∀ e ∈ es, symbolKey e.1 = e.1
  spelled : ∀ e ∈ es, Spelled e.1
  positive : ∀ e ∈ es, 0 < e.2.factor

theorem Exact.catalogues {s : UnitSystem} {es : List (String × RatioUnit)} (h : s.Exact es) :
    s.Catalogues RatioUnit.operand es :=
  ⟨h.entries, h.distinct, h.keyed, h.spelled⟩

theorem Exact.register {s : UnitSystem} {es : List (String × RatioUnit)} (h : s.Exact es)
    {symbol : String} (hk : Spelled symbol) {u : RatioUnit} (hf : 0 < u.factor) :
    (s.register symbol u.operand).Exact (Registry.bind (symbolKey symbol) u es) := by
  obtain ⟨hentries, hdistinct, hkeyed, hspelled⟩ := h.catalogues.register hk u
  refine ⟨h.number, hentries, hdistinct, hkeyed, hspelled, ?_⟩
  intro e he
  rcases Registry.mem_bind he with rfl | he
  · exact hf
  · exact h.positive e he

theorem exact_empty (base : BaseUnits) : Exact ⟨base, .ratio, {}⟩ [] :=
  ⟨rfl, rfl, .nil, by simp, by simp, by simp⟩

theorem Exact.register_base {s : UnitSystem} {es : List (String × RatioUnit)} (h : s.Exact es)
    {symbol : String} (hk : Spelled symbol) (d : Dimension) :
    ∃ es', (s.register symbol (.unit (.base d .ratio))).Exact es' := by
  have h1 : (0 : Rat) < 1 := by decide
  have hu : 0 < (RatioUnit.mk d 1).factor := h1
  exact ⟨_, h.register hk hu⟩

theorem exact_withBase {base : BaseUnits} (h : ∀ axis, Spelled (base.symbol axis)) :
    ∃ es, (withBase base .ratio).Exact es := by
  refine withBase_induction (P := fun s => ∃ es, s.Exact es) ⟨[], exact_empty base⟩ ?_
  rintro s axis ⟨es, hs⟩
  exact hs.register_base (h axis) _

theorem spelled_si : ∀ axis ∈ Axis.all, Spelled (BaseUnits.si.symbol axis) := by
  decide +kernel

theorem spelled_preset : ∀ item ∈ presetUnits, Spelled item.1 := by
  decide +kernel

theorem exact_si : ∃ s, si .ratio = .ok s ∧ ∃ es, s.Exact es := by
  have hk : NumberKind.ratio ≠ .int := by decide
  apply si_induction hk
  · exact ⟨[], exact_empty .si⟩
  · rintro s axis ⟨es, hs⟩
    exact hs.register_base (spelled_si axis (Axis.mem_all axis)) _
  · rintro s ⟨es, hs⟩
    exact hs.number
  · rintro s item hi n - hn ⟨es, hs⟩
    obtain ⟨q, rfl, hq⟩ := NumberKind.isFactor_ratio hn
    have hu : 0 < (RatioUnit.mk item.2.2 q).factor := hq
    exact ⟨_, hs.register (spelled_preset item hi) hu⟩

theorem Assembled.exact {s : UnitSystem} (h : Assembled s) : ∃ es, s.Exact es := by
  induction h with
  | si h =>
    obtain ⟨s, hs, he⟩ := exact_si
    rw [h] at hs
    obtain rfl := Except.ok.inj hs
    exact he
  | withBase h => exact exact_withBase h
  | register _ hk hf ih =>
    obtain ⟨es, hs⟩ := ih
    exact ⟨_, hs.register hk hf⟩

theorem Exact.get?_entry {s : UnitSystem} {es : List (String × RatioUnit)} (h : s.Exact es)
    {e : String × RatioUnit} (he : e ∈ es) : s.get? e.1 = some e.2.operand :=
  h.catalogues.get?_entry he

/-- A symbol and its key are bound to the same. -/
theorem lookup_symbolKey (s : UnitSystem) {symbol : String} {entry : Operand}
    (h : s.get? symbol = some entry) : s.lookup (symbolKey symbol) = .ok entry := by
  have hk : s.get? (symbolKey symbol) = some entry := by
    rw [get?, symbolKey_symbolKey]
    exact h
  rw [UnitSystem.lookup, hk]

theorem Exact.spelled_of_get? {s : UnitSystem} {es : List (String × RatioUnit)} (h : s.Exact es)
    {symbol : String} {entry : Operand} (hg : s.get? symbol = some entry) : Spelled symbol :=
  h.catalogues.spelled_of_get? hg

end UnitSystem

end Metrology
