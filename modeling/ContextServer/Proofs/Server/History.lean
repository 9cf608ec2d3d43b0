import Mathlib.Data.List.Induction
import ContextServer.Proofs.Server.Recall

/-!
# Histories of the components

What is registered follows from the *changes* so far: components that were registered, and
keys that were taken out of a family (`Change`). A component *stands* after a list of changes
if it was registered and no later change is about its family and key
(`Component.StandsAfter`): of the changes about one key the last one counts. The components of
a registry are those that stand after its changes (`Registry.component?_ofChanges`), so there
is one at most under each key (`Component.StandsAfter.eq`), and nothing else is to be seen of
the order of the changes (`Registry.ofChanges_congr`): two changes about different keys can
change places (`Registry.change_comm`).
-/

namespace ContextServer

/-- A change of the components. -/
inductive Change where
  /-- A component is registered. -/
  | add (c : Component)
  /-- The component of a family under a key is taken out. -/
  | remove (f : Family) (key : String)

namespace Change

/-- The family that a change is about. -/
def family : Change → Family
  | add c => c.family
  | remove f _ => f

/-- The key that a change is about. -/
def key : Change → String
  | add c => c.key
  | remove _ key => key

/-- What is registered under its key after a change. -/
def component? : Change → Option Component
  | add c => some c
  | remove _ _ => none

/-- The change is about that key of a family. -/
def IsAbout (x : Change) (f : Family) (key : String) : Prop := f = x.family ∧ key = x.key

instance (x : Change) (f : Family) (key : String) : Decidable (x.IsAbout f key) :=
  inferInstanceAs (Decidable (_ ∧ _))

end Change

/-! ## Registries with a history -/

namespace Registry

/-- The registry after a change. -/
def change (r : Registry) : Change → Registry
  | .add c => r.add c
  | .remove f key => r.remove f key

/-- The registry after changes, the first one first. -/
def changes (r : Registry) (xs : List Change) : Registry := xs.foldl change r

/-- What comes of changes to a registry without components. -/
def ofChanges (xs : List Change) : Registry := changes {} xs

variable {r r' : Registry} {f : Family} {key : String} {x y : Change}

theorem component?_change (r : Registry) (x : Change) (f : Family) (key : String) :
    (r.change x).component? f key =
      if x.IsAbout f key then x.component? else r.component? f key := by
  cases x with
  | add c => exact component?_add c f key
  | remove f' key' => exact component?_remove f' key' f key

/-- A registry is what its components are. -/
theorem ext_component? (h : ∀ f key, r.component? f key = r'.component? f key) : r = r' := by
  obtain ⟨tools, resources, templates, prompts⟩ := r
  obtain ⟨tools', resources', templates', prompts'⟩ := r'
  have htools : tools = tools' := Dict.ext_get? fun key =>
    Option.map_injective (fun _ _ => Component.tool.inj) (h .tools key)
  have hresources : resources = resources' := Dict.ext_get? fun key =>
    Option.map_injective (fun _ _ => Component.resource.inj) (h .resources key)
  have htemplates : templates = templates' := Dict.ext_get? fun key =>
    Option.map_injective (fun _ _ => Component.template.inj) (h .templates key)
  have hprompts : prompts = prompts' := Dict.ext_get? fun key =>
    Option.map_injective (fun _ _ => Component.prompt.inj) (h .prompts key)
  rw [htools, hresources, htemplates, hprompts]

/-- Two changes that are not about the same key can change places. -/
theorem change_comm (r : Registry) (hxy : ¬x.IsAbout y.family y.key) :
    (r.change x).change y = (r.change y).change x := by
  refine ext_component? fun f key => ?_
  simp only [component?_change]
  by_cases hx : x.IsAbout f key
  · -- The other change is then about something else.
    have hy : ¬y.IsAbout f key := by
      rintro ⟨rfl, rfl⟩
      exact hxy hx
    simp only [if_pos hx, if_neg hy]
  · simp only [if_neg hx]

end Registry

/-! ## Components that stand -/

namespace Component

variable {c c' : Component} {x : Change} {xs : List Change}

/-- The component was registered, and no later change is about its key. -/
def StandsAfter (c : Component) (xs : List Change) : Prop :=
  ∃ before after, xs = before ++ .add c :: after ∧ ∀ x ∈ after, ¬x.IsAbout c.family c.key

theorem not_standsAfter_nil : ¬c.StandsAfter [] := by
  rintro ⟨before, after, hxs, -⟩
  exact List.append_ne_nil_of_right_ne_nil _ (List.cons_ne_nil _ _) hxs.symm

/-- A component stands after one more change if the change registers it, or if it stood before
    and the change is about something else. -/
theorem standsAfter_concat :
    c.StandsAfter (xs ++ [x]) ↔ x = .add c ∨ c.StandsAfter xs ∧ ¬x.IsAbout c.family c.key := by
  constructor
  · rintro ⟨before, after, hxs, hafter⟩
    rcases List.eq_nil_or_concat after with rfl | ⟨after, y, rfl⟩
    · exact .inl (List.singleton_inj.1 (List.append_inj' hxs rfl).2)
    · rw [List.concat_eq_append] at hxs hafter
      rw [← List.cons_append, ← List.append_assoc] at hxs
      obtain ⟨rfl, hxy⟩ := List.append_inj' hxs rfl
      obtain rfl := List.singleton_inj.1 hxy
      rw [List.forall_mem_append, List.forall_mem_singleton] at hafter
      exact .inr ⟨⟨before, after, rfl, hafter.1⟩, hafter.2⟩
  · rintro (rfl | ⟨⟨before, after, rfl, hafter⟩, hx⟩)
    · exact ⟨xs, [], rfl, List.forall_mem_nil _⟩
    · refine ⟨before, after ++ [x], by simp, ?_⟩
      rw [List.forall_mem_append, List.forall_mem_singleton]
      exact ⟨hafter, hx⟩

end Component

namespace Registry

variable {f : Family} {key : String} {c : Component} {xs ys : List Change}

theorem ofChanges_concat (xs : List Change) (x : Change) :
    ofChanges (xs ++ [x]) = (ofChanges xs).change x :=
  List.foldl_append

/-- The components of a registry are those that stand after its changes, each under its own
    key. -/
theorem component?_ofChanges :
    (ofChanges xs).component? f key = some c ↔ c.StandsAfter xs ∧ c.family = f ∧ c.key = key := by
  -- The last change counts for its own key; under the others the earlier changes do.
  induction xs using List.reverseRecOn with
  | nil =>
    refine iff_of_false ?_ fun h => Component.not_standsAfter_nil h.1
    cases f <;> exact nofun
  | append_singleton xs x ih =>
    rw [ofChanges_concat, component?_change, Component.standsAfter_concat]
    by_cases hx : x.IsAbout f key
    · rw [if_pos hx]
      constructor
      · intro hc
        cases x with
        | remove => cases hc
        | add c' =>
          cases hc
          exact ⟨.inl rfl, hx.1.symm, hx.2.symm⟩
      · rintro ⟨rfl | ⟨-, hother⟩, rfl, rfl⟩
        · rfl
        · exact absurd hx hother
    · rw [if_neg hx, ih]
      constructor
      · rintro ⟨hc, rfl, rfl⟩
        exact ⟨.inr ⟨hc, hx⟩, rfl, rfl⟩
      · rintro ⟨rfl | ⟨hc, -⟩, rfl, rfl⟩
        · exact absurd ⟨rfl, rfl⟩ hx
        · exact ⟨hc, rfl, rfl⟩

/-- Registries with the same components standing are the same. -/
theorem ofChanges_congr (h : ∀ c : Component, c.StandsAfter xs ↔ c.StandsAfter ys) :
    ofChanges xs = ofChanges ys :=
  ext_component? fun f key => Option.ext fun c => by
    rw [component?_ofChanges, component?_ofChanges, h]

end Registry

/-- There is one component at most that stands under a key. -/
theorem Component.StandsAfter.eq {c c' : Component} {xs : List Change} (h : c.StandsAfter xs)
    (h' : c'.StandsAfter xs) (hfamily : c'.family = c.family) (hkey : c'.key = c.key) : c' = c := by
  have hc := Registry.component?_ofChanges.2 ⟨h, rfl, rfl⟩
  have hc' := Registry.component?_ofChanges.2 ⟨h', hfamily, hkey⟩
  exact Option.some.inj (hc'.symm.trans hc)

end ContextServer
