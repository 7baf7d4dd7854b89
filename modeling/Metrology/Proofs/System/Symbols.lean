import Metrology.Proofs.Expression.Product
import Metrology.Proofs.Expression.Symbols
import Metrology.Proofs.System.Assembly
import Metrology.Proofs.System.Registrations
import Metrology.System.Reading

namespace Metrology

open Expression Text.Canonical

/-- Every term names a word, which is a part of the canonical text without its carets. The word is its
own key exactly if none of the carets stand between letters that compose. Then a system finds under
the word itself what it finds for the symbol. -/
theorem scanned_symbols {text : String} {t : Term} (h : t ∈ (scan text).terms) :
    t.symbol.toList ≠ [] ∧ (∀ c ∈ t.symbol.toList, Text.isLetter c = true) ∧
      ∃ word, word <:+: (symbolKey text).toList ∧ t.symbol.toList = word.filter (· ≠ '^') ∧
        (symbolKey t.symbol = t.symbol ↔ ¬Interrupted word) ∧
        (¬Interrupted word → ∀ s : UnitSystem, s.get? t.symbol = s.registry.find? t.symbol) := by
  have hs := stands_of_mem_scan h
  obtain ⟨word, hinfix, hword, hk⟩ := symbolKey_of_mem_scan h
  refine ⟨hs.nonempty, hs.letters, word, hinfix, hword, hk, fun hi s => ?_⟩
  rw [UnitSystem.get?, hk.mpr hi]

/-- The letter with its ring apart is scanned as its key. -/
theorem scanned_symbols_angstrom : (⟨"\u00c5", 2, true⟩ : Term) ∈ (scan "1/A\u030a²").terms ∧
    symbolKey "\u00c5" = "\u00c5" ∧
      ∀ s : UnitSystem, s.get? "\u00c5" = s.registry.find? "\u00c5" := by
  have hm : (⟨"\u00c5", 2, true⟩ : Term) ∈ (scan "1/A\u030a²").terms := by decide +kernel
  have hnone : ¬Interrupted (symbolKey "1/A\u030a²").toList := not_interrupted (by decide +kernel)
  obtain ⟨-, -, word, hinfix, -, hk, hfound⟩ := scanned_symbols hm
  have hi : ¬Interrupted word := fun h => hnone (h.mono hinfix)
  exact ⟨hm, hk.mpr hi, hfound hi⟩

/-- A caret keeps a vowel of Hangul from its consonant while the text is composed, and is gone where
the two are taken for one symbol. So the symbol is not the key that its unit is found under. -/
theorem scanned_symbols_jamo : (scan "\u1100^\u1161").terms = [⟨"\u1100\u1161", 1, false⟩] ∧
    symbolKey "\u1100\u1161" = "\uac00" ∧
    ∀ (s : UnitSystem) (entry : Operand), (s.register "\uac00" entry).get? "\u1100\u1161" =
      some entry ∧ (s.register "\uac00" entry).registry.find? "\u1100\u1161" =
        s.registry.find? "\u1100\u1161" := by
  have hk : symbolKey "\u1100\u1161" = "\uac00" := by decide +kernel
  have hs : symbolKey "\uac00" = "\uac00" := by decide +kernel
  refine ⟨by decide +kernel, hk, fun s entry => ⟨?_, ?_⟩⟩
  · rw [UnitSystem.get?_register, hk, hs, if_pos rfl]
  · rw [UnitSystem.register, hs, Registry.find?_insert, if_neg (by decide)]

theorem reading_symbolKey {text : String} {ts : List Term} (h : Reading (symbolKey text) ts) :
    Reading text ts := by
  have hp : (plainSpelling (symbolKey text)).toList = (plainSpelling text).toList := by
    rw [plainSpelling_eq, plainSpelling_eq, symbolKey, toList_canonical, plain_normal]
  rwa [Reading, hp] at h

/-- A text is scanned to its key alone exactly if the key is a word. -/
theorem scan_eq_key_iff (text : String) :
    scan text = ⟨[⟨symbolKey text, 1, false⟩], none⟩ ↔ Spelled text := by
  constructor
  · intro h
    have hm : (⟨symbolKey text, 1, false⟩ : Term) ∈ (scan text).terms := by
      rw [h]
      exact .head _
    have hs := stands_of_mem_scan hm
    exact ⟨hs.nonempty, hs.letters⟩
  · rintro ⟨hn, hl⟩
    have hr := reading_word (symbolKey_symbolKey text) hn hl
    exact (scan_eq_iff_reading text _).mpr (reading_symbolKey hr)

theorem symbolKey_eq {text other : String} (h : Equivalent other.toList text.toList) :
    symbolKey other = symbolKey text := by
  rw [symbolKey, symbolKey, canonical_eq, canonical_eq, normal_eq_iff.mpr h]

namespace UnitSystem

open Registration

variable {s : UnitSystem} {calls : List Registration}

theorem number_registerAll (s : UnitSystem) (calls : List Registration) :
    (s.registerAll calls).number = s.number := by
  induction calls generalizing s with
  | nil => rfl
  | cons c calls ih => exact ih (s.register c.symbol c.entry)

/-- The step from one call to the next one is an insertion, which the last call for a key decides. -/
theorem find?_registerAll {key : String} {entry : Operand} (h : latest? key calls = some entry) :
    (s.registerAll calls).registry.find? key = some entry := by
  induction calls using List.reverseRecOn with
  | nil => cases h
  | append_singleton calls c ih =>
    rw [latest?_concat] at h
    rw [registerAll_append]
    change ((s.registerAll calls).registry.insert c.key c.entry).find? key = some entry
    rw [Registry.find?_insert]
    split at h
    · rename_i hk
      rw [if_pos hk, h]
    · rename_i hk
      rw [if_neg hk, ih h]

theorem identity_eq (hn : s.number = .ratio) : s.identity = RatioUnit.unit ⟨0, 1⟩ := by
  rw [identity, hn]
  rfl

/-- A word that is bound to a unit reads as the unit. -/
theorem unit_symbol (hn : s.number = .ratio) {text : String} (ht : Spelled text) {u : RatioUnit}
    (hu : s.get? text = some u.operand) : s.unit text = .ok u.unit := by
  have hr := (scan_eq_iff_reading text _).mp ((scan_eq_key_iff text).mpr ht)
  unfold unit Expression.unit
  rw [terms_of_reading hr, identity_eq hn]
  exact product_symbol (s.lookup_symbolKey hu)

/-- A text is scanned to one symbol, its key, exactly if the key is a word. Then it reads as the unit
that the last call for the key bound, and so does every text that is canonically equivalent to it. -/
theorem symbols_reached (text : String) :
    (scan text = ⟨[⟨symbolKey text, 1, false⟩], none⟩ ↔ Spelled text) ∧
      (Spelled text → ∀ (s : UnitSystem) (calls : List Registration) (u : RatioUnit),
        s.number = .ratio → latest? (symbolKey text) calls = some u.operand →
        ∀ other, Equivalent other.toList text.toList →
          (s.registerAll calls).unit other = .ok u.unit) := by
  refine ⟨scan_eq_key_iff text, fun ht s calls u hn hu other he => ?_⟩
  have hk := symbolKey_eq he
  have ho : Spelled other := by rwa [Spelled, hk]
  have hg : (s.registerAll calls).get? other = some u.operand := by
    rw [get?, hk]
    exact find?_registerAll hu
  exact unit_symbol ((s.number_registerAll calls).trans hn) ho hg

/-- The letter is registered last, in place of the sign, and read with its ring apart. -/
theorem symbols_reached_angstrom : scan "\u212b" = ⟨[⟨"\u00c5", 1, false⟩], none⟩ ∧
    ((withBase .si .ratio).registerAll [angstromSign, angstromLetter]).unit "A\u030a" =
      .ok (RatioUnit.unit ⟨.power .length 1, 1 / 10 ^ 10⟩) := by
  have hk : symbolKey "\u212b" = "\u00c5" := by decide +kernel
  have hl : angstromLetter.key = "\u00c5" := by decide +kernel
  have hs : Spelled "\u212b" := by decide +kernel
  obtain ⟨hscan, hunit⟩ := symbols_reached "\u212b"
  rw [hk] at hscan hunit
  refine ⟨hscan.mpr hs, hunit hs _ _ ⟨.power .length 1, 1 / 10 ^ 10⟩ rfl ?_ _ (by decide +kernel)⟩
  change latest? "\u00c5" ([angstromSign] ++ [angstromLetter]) = _
  rw [latest?_concat, if_pos hl.symm]
  rfl

end UnitSystem

end Metrology
