import Metrology.Proofs.Dimension.Layout
import Metrology.Proofs.Expression.Scanning
import Metrology.Proofs.Operand.Failures

namespace Metrology

theorem Failure.discerning_of_isParse {failure : Failure} (h : failure.isParse = true) :
    failure.Discerning := by
  cases failure with
  | dimensionMismatch operation left right => cases h
  | _ => trivial

theorem Expression.discerning_terms (text : String) : Discerning (terms text) := by
  cases h : terms text with
  | ok ts => exact .ok ts
  | error failure => exact .error (Failure.discerning_of_isParse (terms_failure h))

theorem Expression.discerning_multiply {lookup : String → Except Failure Operand}
    (hl : ∀ symbol, Discerning (lookup symbol)) (product : MeasureUnit Operand) (term : Term) :
    Discerning (multiply lookup product term) := by
  refine (hl term.symbol).bind fun entry => ?_
  refine (entry.discerning_asUnit "power").bind fun u => ?_
  refine (u.discerning_power Operand.discerns term.signedExponent).bind fun power => ?_
  exact product.discerning_compose Operand.discerns power

theorem Expression.discerning_product {lookup : String → Except Failure Operand}
    (hl : ∀ symbol, Discerning (lookup symbol)) (identity : MeasureUnit Operand)
    (ts : List Term) : Discerning (product lookup identity ts) := by
  unfold product
  induction ts generalizing identity with
  | nil => exact .ok identity
  | cons t ts ih =>
    rw [List.foldlM_cons]
    exact (discerning_multiply hl identity t).bind ih

theorem UnitSystem.discerning_lookup (s : UnitSystem) (symbol : String) :
    Discerning (s.lookup symbol) := by
  unfold lookup
  split <;> simp

theorem UnitSystem.discerning_unit (s : UnitSystem) (text : String) : Discerning (s.unit text) :=
  (Expression.discerning_terms text).bind fun ts =>
    Expression.discerning_product s.discerning_lookup s.identity ts

namespace Operand

theorem discerning_convert (s : UnitSystem) (x text : Operand) :
    Discerning (x.convert s text) := by
  refine (x.discerning_asQuantity "cast").bind fun v => ?_
  have ht : Discerning (text.asText fun _ => .unsupported) := by
    unfold asText
    split <;> simp
  refine ht.bind fun expression => ?_
  have hv : Discerning (s.convert v expression) :=
    (s.discerning_unit expression).bind fun u => Quantity.discerning_cast discerns v u
  exact hv.bind fun _ => .ok _

/-- What comes of an operation that asks for one dimension. -/
inductive Combined : Except Failure Operand → Prop
  | add (a b : Operand) : Combined (apply .add a b)
  | sub (a b : Operand) : Combined (apply .sub a b)
  | eq (a b : Operand) : Combined (apply .eq a b)
  | ne (a b : Operand) : Combined (apply .ne a b)
  | relation (r : Relation) (a b : Operand) : Combined (apply (.relation r) a b)
  | cast (x target : Operand) : Combined (x.cast target)
  | convert (s : UnitSystem) (x text : Operand) : Combined (convert s x text)

theorem Combined.discerning {outcome : Except Failure Operand} (h : Combined outcome) :
    Discerning outcome := by
  cases h with
  | add a b => exact discerns.add a b
  | sub a b => exact discerns.sub a b
  | eq a b => simpa [apply] using discerns.equal a b
  | ne a b => simpa [apply] using discerns.equal a b
  | relation r a b => simpa [apply] using discerns.order a b
  | cast x target => exact discerning_cast x target
  | convert s x text => exact discerning_convert s x text

end Operand

/-- Whether the message of a failure of two dimensions has a text for each, and different ones. -/
def Failure.NamesBoth (operation : String) (left right : Dimension) : Prop :=
  ∃ l r, left.name = .ok l ∧ right.name = .ok r ∧ l ≠ r ∧
    (dimensionMismatch operation left right).message? = some (mismatchText operation l r)

theorem Failure.namesBoth {operation : String} {left right : Dimension}
    (h : (dimensionMismatch operation left right).Discerning) : NamesBoth operation left right := by
  obtain ⟨hl, hr, hne⟩ := h
  obtain ⟨l, hnl⟩ := Dimension.tells_name.total left hl
  obtain ⟨r, hnr⟩ := Dimension.tells_name.total right hr
  refine ⟨l, r, hnl, hnr, ?_, by simp [message?, hnl, hnr]⟩
  rintro rfl
  exact hne (Dimension.tells_name.injective left right l hl hr hnl hnr)

namespace Operand

/-- Of two dimensions that can be written, different ones have different texts, in words, as a list
and as names. So whoever is told that an operation got two dimensions sees which. -/
theorem texts_tell_dimensions :
    Dimension.Tells Dimension.verbose ∧ Dimension.Tells Dimension.shown ∧
      Dimension.Tells Dimension.name ∧
      ∀ (outcome : Except Failure Operand) (operation : String) (left right : Dimension),
        Combined outcome → outcome = .error (.dimensionMismatch operation left right) →
          Failure.NamesBoth operation left right := by
  refine ⟨Dimension.tells_verbose, Dimension.tells_shown, Dimension.tells_name, ?_⟩
  rintro outcome operation left right hc rfl
  exact Failure.namesBoth ((discerning_error _).mp hc.discerning)

/-- Three metres and two seconds. -/
theorem texts_tell_metre_second :
    apply .add (quantity ⟨number (.int 3), ⟨Physics.length, number (.int 1)⟩⟩)
        (quantity ⟨number (.int 2), ⟨Physics.time, number (.int 1)⟩⟩) =
      .error (.dimensionMismatch "Add" Physics.length Physics.time) ∧
      Failure.NamesBoth "Add" Physics.length Physics.time := by
  have he : apply .add (quantity ⟨number (.int 3), ⟨Physics.length, number (.int 1)⟩⟩)
      (quantity ⟨number (.int 2), ⟨Physics.time, number (.int 1)⟩⟩) =
        .error (.dimensionMismatch "Add" Physics.length Physics.time) := rfl
  exact ⟨he, texts_tell_dimensions.2.2.2 _ _ _ _ (.add _ _) he⟩

end Operand

end Metrology
