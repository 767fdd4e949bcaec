import Mathlib
import Preflight.Proofs.CheckedResources

/-!
# Documents judged twice

Two walks over the same external objects, with other settings or with other levels left, meet the
same references as long as both go on. So a relation between computations holds between two walks
as soon as it holds between the verdicts on subjects, on color spaces and on content streams.
-/

namespace Preflight

variable {R : (α : Type) → Except StreamFailure α → Except StreamFailure α → Prop}

theorem Congruence.forM_walk (congruence : Congruence R) {α : Type} {f g : α → Walk Unit}
    (h : ∀ item before, R (Unit × List ObjectId) (f item before) (g item before)) (items : List α)
    (before : List ObjectId) :
    R (Unit × List ObjectId) (items.forM f before) (items.forM g before) := by
  induction items generalizing before with
  | nil => exact congruence.refl _
  | cons item items ih =>
    show R _ (f item before >>= fun p => items.forM f p.2)
      (g item before >>= fun p => items.forM g p.2)
    exact congruence.bind (h item before) fun p => ih p.2

theorem Congruence.map (congruence : Congruence R) {α β : Type} {x y : Except StreamFailure α}
    (f : α → β) (h : R α x y) : R β (x.map f) (y.map f) := by
  have continued := congruence.bind h fun a => congruence.refl (Except.ok (f a))
  have map_eq (z : Except StreamFailure α) : z.map f = (z >>= fun a => Except.ok (f a)) := by
    cases z <;> rfl
  rw [map_eq, map_eq]
  exact continued

variable [StreamDecoder]

/-- The verdicts with two settings on a subject, and on a color space of a document, are related. -/
structure Settings.ComparesWalks
    (R : (α : Type) → Except StreamFailure α → Except StreamFailure α → Prop)
    (document : Document) (settings other : Settings) : Prop extends
    Compares R (some document) settings other where
  subject : ∀ subject, R Unit (settings.check subject) (other.check subject)

namespace Settings.ComparesWalks

variable {document : Document} {settings other : Settings}

/-- The same settings twice. -/
theorem same (congruence : Congruence R) (document : Document) (settings : Settings) :
    ComparesWalks R document settings settings :=
  ⟨.same congruence (some document) settings, fun _ => congruence.refl _⟩

variable (compares : ComparesWalks R document settings other)
include compares

theorem checkFontResource (object : Object) :
    R Unit (settings.checkFontResource document object) (other.checkFontResource document object) := by
  unfold Settings.checkFontResource
  split
  · exact compares.subject _
  · exact compares.congruence.refl _

theorem checkStateResource (object : Object) :
    R Unit (settings.checkStateResource document object)
      (other.checkStateResource document object) := by
  unfold Settings.checkStateResource
  split
  · exact compares.subject _
  · exact compares.congruence.refl _

theorem checkShadingResource (object : Object) :
    R Unit (settings.checkShadingResource document object)
      (other.checkShadingResource document object) := by
  unfold Settings.checkShadingResource
  split
  · refine compares.congruence.bind (compares.resolve _) fun space? => ?_
    split
    · exact compares.subject _
    · exact compares.congruence.refl _
  · exact compares.congruence.refl _

theorem checkOwnResources (resources : Dictionary) :
    R Unit (settings.checkOwnResources document resources)
      (other.checkOwnResources document resources) := by
  have congruence := compares.congruence
  refine congruence.bind (congruence.forM compares.checkFontResource _) fun _ => ?_
  refine congruence.bind (congruence.forM compares.checkStateResource _) fun _ => ?_
  exact congruence.forM compares.checkShadingResource _

variable {nested deeper : Bytes → Dictionary → Walk Unit}
  (h : ∀ content own before,
    R (Unit × List ObjectId) (nested content own before) (deeper content own before))
include h

theorem checkExternalObject (resources : Dictionary) (object : Object) (before : List ObjectId) :
    R (Unit × List ObjectId)
      (settings.checkExternalObject document nested resources object before)
      (other.checkExternalObject document deeper resources object before) := by
  rw [checkExternalObject_eq, checkExternalObject_eq]
  split
  · exact compares.congruence.refl _
  split
  · exact compares.congruence.map _ (compares.subject _)
  split
  · exact compares.congruence.bind (compares.congruence.refl _) fun content => h content _ before
  · exact compares.congruence.refl _

theorem checkExternalEntry (resources : Dictionary) (entry : Object) (before : List ObjectId) :
    R (Unit × List ObjectId)
      (settings.checkExternalEntry document nested resources entry before)
      (other.checkExternalEntry document deeper resources entry before) := by
  rw [checkExternalEntry_eq, checkExternalEntry_eq]
  split
  · split
    · exact compares.congruence.refl _
    · exact compares.checkExternalObject h resources _ _
  · exact compares.checkExternalObject h resources _ _

/-- The verdicts on all that resources hold are related. -/
theorem checkResources (resources : Dictionary) (before : List ObjectId) :
    R (Unit × List ObjectId) (settings.checkResources document nested resources before)
      (other.checkResources document deeper resources before) := by
  rw [checkResources_eq, checkResources_eq]
  refine compares.congruence.bind (compares.checkOwnResources resources) fun _ => ?_
  exact compares.congruence.forM_walk (compares.checkExternalEntry h resources) _ before

end Settings.ComparesWalks

end Preflight
