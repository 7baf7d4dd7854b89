import Mathlib.Data.List.Nodup
import Metrology.Proofs.Number.Excess
import Metrology.System.Preset

namespace Metrology

namespace Registry

variable {α : Type} {key : String} {entry : α}

theorem mem_bind {entries : List (String × α)} {e : String × α}
    (h : e ∈ bind key entry entries) : e = (key, entry) ∨ e ∈ entries := by
  induction entries with
  | nil => exact .inl (List.mem_singleton.mp h)
  | cons d entries ih =>
    rw [bind] at h
    split at h
    · rename_i hk
      rcases List.mem_cons.mp h with rfl | h
      · exact .inl (by rw [hk])
      · exact .inr (by simp [h])
    · rcases List.mem_cons.mp h with rfl | h
      · exact .inr (by simp)
      · exact (ih h).imp_right fun hm => by simp [hm]

/-- A new key comes last. -/
theorem bind_of_notMem {entries : List (String × α)} (h : key ∉ entries.map (·.1)) :
    bind key entry entries = entries ++ [(key, entry)] := by
  induction entries with
  | nil => rfl
  | cons e entries ih =>
    obtain ⟨hne, hn⟩ := not_or.mp fun hm => h (List.mem_cons.mpr hm)
    rw [bind, if_neg (Ne.symm hne), ih hn]
    rfl

theorem mem_of_find? {r : Registry α} (h : r.find? key = some entry) :
    (key, entry) ∈ r.entries := by
  obtain ⟨before, after, he, -⟩ := List.lookup_eq_some_iff.mp h
  rw [he]
  simp

/-- No key comes to stand twice. -/
theorem nodup_keys_bind {entries : List (String × α)} (h : (entries.map (·.1)).Nodup) :
    ((bind key entry entries).map (·.1)).Nodup := by
  rw [keys_bind]
  split
  · exact h
  · rename_i hn
    refine List.nodup_append.mpr ⟨h, List.nodup_singleton key, ?_⟩
    rintro k hk _ hm rfl
    exact hn (List.mem_singleton.mp hm ▸ hk)

/-- An entry is found under its key, where no key stands twice. -/
theorem find?_of_mem {r : Registry α} (hn : r.keys.Nodup) (h : (key, entry) ∈ r.entries) :
    r.find? key = some entry := by
  obtain ⟨entries⟩ := r
  induction entries with
  | nil => cases h
  | cons d entries ih =>
    obtain ⟨hd, hn⟩ := List.nodup_cons.mp hn
    rcases List.mem_cons.mp h with rfl | h
    · exact List.lookup_cons_self
    · have hne : key ≠ d.1 := fun he => hd (List.mem_map.mpr ⟨_, h, he⟩)
      rw [find?, List.lookup_cons, beq_eq_false_iff_ne.mpr hne]
      exact ih hn h

end Registry

namespace UnitSystem

/-- What a symbol is bound to is an entry of the registry. -/
theorem mem_of_get? {s : UnitSystem} {symbol : String} {entry : Operand}
    (h : s.get? symbol = some entry) : (symbolKey symbol, entry) ∈ s.registry.entries :=
  Registry.mem_of_find? h

theorem withBase_induction {base : BaseUnits} {kind : NumberKind} {P : UnitSystem → Prop}
    (start : P ⟨base, kind, {}⟩)
    (register : ∀ s axis, P s →
      P (s.register (base.symbol axis) (.unit (.base (.power axis 1) kind)))) :
    P (withBase base kind) := by
  have hfold (axes : List Axis) (s : UnitSystem) (hs : P s) :
      P ((axes.map fun axis => (base.symbol axis, Dimension.power axis 1)).foldl
        (fun s item => s.register item.1 (.unit (.base item.2 kind))) s) := by
    induction axes generalizing s with
    | nil => exact hs
    | cons axis axes ih => exact ih _ (register s axis hs)
  exact hfold Axis.all _ start

/-- Whether a literal is of a number that can be a factor. -/
def readsFactor (kind : NumberKind) (text : String) : Bool :=
  match kind.read text with
  | .ok n => kind.isFactor n
  | .error _ => false

theorem readsFactor_preset {kind : NumberKind} (hk : kind ≠ .int) :
    ∀ item ∈ presetUnits, readsFactor kind item.2.1 = true := by
  cases kind with
  | float => decide +kernel
  | ratio => decide +kernel
  | decimal => decide +kernel
  | int => contradiction

theorem read_preset {kind : NumberKind} (hk : kind ≠ .int) {item : String × String × Dimension}
    (hi : item ∈ presetUnits) :
    ∃ n, kind.read item.2.1 = .ok n ∧ kind.isFactor n = true := by
  have hr := readsFactor_preset hk item hi
  unfold readsFactor at hr
  split at hr
  · rename_i n hn
    exact ⟨n, hn, hr⟩
  · contradiction

/-- The preset of a kind that reads all the factors. -/
theorem si_induction {kind : NumberKind} {P : UnitSystem → Prop} (hk : kind ≠ .int)
    (start : P ⟨.si, kind, {}⟩)
    (register : ∀ s axis, P s →
      P (s.register (BaseUnits.si.symbol axis) (.unit (.base (.power axis 1) kind))))
    (number : ∀ s, P s → s.number = kind)
    (preset : ∀ s, ∀ item ∈ presetUnits, ∀ n, kind.read item.2.1 = .ok n →
      kind.isFactor n = true → P s → P (s.register item.1 (.unit ⟨item.2.2, .number n⟩))) :
    ∃ s, si kind = .ok s ∧ P s := by
  have hfold (items : List (String × String × Dimension)) (hi : ∀ item ∈ items, item ∈ presetUnits)
      (s : UnitSystem) (hs : P s) : ∃ last, items.foldlM addPreset s = .ok last ∧ P last := by
    induction items generalizing s with
    | nil => exact ⟨s, rfl, hs⟩
    | cons item items ih =>
      have hm : item ∈ presetUnits := hi item (by simp)
      obtain ⟨n, hn, hf⟩ := read_preset hk hm
      have ha : addPreset s item = .ok (s.register item.1 (.unit ⟨item.2.2, .number n⟩)) := by
        rw [addPreset, number s hs, hn]
        rfl
      rw [List.foldlM_cons, ha]
      exact ih (fun i him => hi i (by simp [him])) _ (preset s item hm n hn hf hs)
  exact hfold presetUnits (fun _ h => h) _ (withBase_induction start register)

end UnitSystem

end Metrology
