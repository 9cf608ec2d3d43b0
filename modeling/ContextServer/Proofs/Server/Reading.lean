import ContextServer.Proofs.Server.Dispatch
import ContextServer.Proofs.Server.History
import ContextServer.Proofs.Text.Utf8

/-!
# Readings

Which handler a reading of a URI is for. The resource of that very URI comes first, then the
first one, in the order of bytes, of the templates that the URI is an instance of; the rest are
not asked (`Registry.Selects`). What the handler reports is the outcome, whatever the other
templates could have said, and in what order things were registered is not to be seen in it
(`Registry.readResource_selects`).
-/

namespace ContextServer

/-- Of the templates that stand, this one is the first in the order of bytes that the URI is an
    instance of. -/
structure TemplateComponent.IsFirstFor (c : TemplateComponent) (xs : List Change) (uri : String)
    (bindings : Dict String) : Prop where
  stands : (Component.template c).StandsAfter xs
  bound : UriTemplate.match? c.descriptor.uriTemplate uri = some bindings
  least : ∀ c' : TemplateComponent, (Component.template c').StandsAfter xs →
    (UriTemplate.match? c'.descriptor.uriTemplate uri).isSome = true → c' ≠ c →
    Utf8.Precedes c.descriptor.uriTemplate c'.descriptor.uriTemplate

/-- The outcome of a reading that one handler was asked for. -/
def ReadResourceResult.ofHandler :
    Outcome HandlerError ResourceContents → Outcome Failure ReadResourceResult
  | .returned contents => .returned { contents := [contents] }
  | .failed e => .failed (.handler e)
  | .crashed => .crashed

namespace Registry

variable {xs ys : List Change} {uri key : String}

/-- What a reading of a URI comes to after these changes: the outcome, and the registry that
    it leaves. The handler that is asked remembers it, and it is the only one. -/
inductive Selects (xs : List Change) (uri : String) :
    Outcome Failure ReadResourceResult × Registry → Prop
  | resource {c : ResourceComponent} : (Component.resource c).StandsAfter xs →
      c.descriptor.uri = uri →
      Selects xs uri (ReadResourceResult.ofHandler (c.handler.ask uri).1,
        (ofChanges xs).add (.resource (c.after [uri])))
  | template {c : TemplateComponent} {bindings : Dict String} :
      (∀ c' : ResourceComponent, (Component.resource c').StandsAfter xs →
        c'.descriptor.uri ≠ uri) →
      c.IsFirstFor xs uri bindings →
      Selects xs uri (ReadResourceResult.ofHandler (c.handler.ask { uri, bindings }).1,
        (ofChanges xs).add (.template (c.after [{ uri, bindings }])))
  | nothing :
      (∀ c' : ResourceComponent, (Component.resource c').StandsAfter xs →
        c'.descriptor.uri ≠ uri) →
      (∀ c' : TemplateComponent, (Component.template c').StandsAfter xs →
        UriTemplate.match? c'.descriptor.uriTemplate uri = none) →
      Selects xs uri (.returned { contents := [] }, ofChanges xs)

/-- The same resources and templates stand after both lists of changes. -/
def SameReadable (xs ys : List Change) : Prop :=
  ∀ c : Component, c.family = .resources ∨ c.family = .templates →
    (c.StandsAfter xs ↔ c.StandsAfter ys)

/-! ## What is found -/

theorem get?_resources_ofChanges {c : ResourceComponent} :
    (ofChanges xs).resources.get? uri = some c ↔
      (Component.resource c).StandsAfter xs ∧ c.descriptor.uri = uri := by
  have h : (ofChanges xs).component? .resources uri = some (.resource c) ↔ _ := component?_ofChanges
  rw [component?, Option.map_eq_some_iff] at h
  simpa [Component.family, Component.key] using h

theorem get?_resources_eq_none_iff :
    (ofChanges xs).resources.get? uri = none ↔
      ∀ c : ResourceComponent, (Component.resource c).StandsAfter xs → c.descriptor.uri ≠ uri := by
  simp only [Option.eq_none_iff_forall_ne_some, ne_eq, get?_resources_ofChanges, not_and]

theorem get?_templates_ofChanges {c : TemplateComponent} :
    (ofChanges xs).templates.get? key = some c ↔
      (Component.template c).StandsAfter xs ∧ c.descriptor.uriTemplate = key := by
  have h : (ofChanges xs).component? .templates key = some (.template c) ↔ _ := component?_ofChanges
  rw [component?, Option.map_eq_some_iff] at h
  simpa [Component.family, Component.key] using h

/-- The template that is found is the first one that the URI is an instance of. -/
theorem templateFor?_ofChanges {c : TemplateComponent} {bindings : Dict String} :
    (ofChanges xs).templateFor? uri = some (key, c, bindings) ↔
      c.IsFirstFor xs uri bindings ∧ c.descriptor.uriTemplate = key := by
  rw [templateFor?, Dict.findSome?_entries_eq_some_iff]
  simp only [Option.map_eq_some_iff, Option.isSome_map, get?_templates_ofChanges]
  constructor
  · rintro ⟨_, _, ⟨hstands, rfl⟩, ⟨_, hbound, heq⟩, hleast⟩
    cases heq
    refine ⟨⟨hstands, hbound, fun c' hc' hmatch hne => Utf8.precedes_iff_lt.2 ?_⟩, rfl⟩
    refine hleast _ c' ⟨hc', rfl⟩ hmatch fun hkey => hne ?_
    exact Component.template.inj (hstands.eq hc' rfl hkey)
  · rintro ⟨hc, rfl⟩
    refine ⟨_, c, ⟨hc.stands, rfl⟩, ⟨bindings, hc.bound, rfl⟩, ?_⟩
    rintro _ c' ⟨hc', rfl⟩ hmatch hkey
    exact Utf8.precedes_iff_lt.1 (hc.least c' hc' hmatch fun he => hkey (he ▸ rfl))

theorem templateFor?_ofChanges_eq_none_iff :
    (ofChanges xs).templateFor? uri = none ↔
      ∀ c : TemplateComponent, (Component.template c).StandsAfter xs →
        UriTemplate.match? c.descriptor.uriTemplate uri = none := by
  simp only [templateFor?_eq_none_iff, get?_templates_ofChanges]
  exact ⟨fun h c hc => h _ c ⟨hc, rfl⟩, fun h _ c hc => h c hc.1⟩

/-! ## What is asked -/

theorem ofHandler_eq (o : Outcome HandlerError ResourceContents) :
    ((o.mapError Failure.handler).map fun contents =>
      ({ contents := [contents] } : ReadResourceResult)) = ReadResourceResult.ofHandler o := by
  cases o <;> rfl

theorem Selects.eq_readResource {x : Outcome Failure ReadResourceResult × Registry}
    (h : Selects xs uri x) : x = (ofChanges xs).readResource uri := by
  rw [readResource]
  cases h with
  | resource hc huri =>
    subst huri
    rw [get?_resources_ofChanges.2 ⟨hc, rfl⟩, ← ofHandler_eq]
    rfl
  | template hnone hc =>
    rw [get?_resources_eq_none_iff.2 hnone, templateFor?_ofChanges.2 ⟨hc, rfl⟩, ← ofHandler_eq]
    rfl
  | nothing hnone hno =>
    rw [get?_resources_eq_none_iff.2 hnone, templateFor?_ofChanges_eq_none_iff.2 hno]

theorem selects_of_readResource (xs : List Change) (uri : String) :
    Selects xs uri ((ofChanges xs).readResource uri) := by
  cases hc : (ofChanges xs).resources.get? uri with
  | some c =>
    have hselects := get?_resources_ofChanges.1 hc
    exact Selects.eq_readResource (.resource hselects.1 hselects.2) ▸
      .resource hselects.1 hselects.2
  | none =>
    have hnone := get?_resources_eq_none_iff.1 hc
    cases htemplate : (ofChanges xs).templateFor? uri with
    | some found =>
      have hfirst := (templateFor?_ofChanges.1 htemplate).1
      exact Selects.eq_readResource (.template hnone hfirst) ▸ .template hnone hfirst
    | none =>
      have hno := templateFor?_ofChanges_eq_none_iff.1 htemplate
      exact Selects.eq_readResource (.nothing hnone hno) ▸ .nothing hnone hno

/-- A reading looks at nothing but the resources and the templates. -/
theorem SameReadable.readResource (h : SameReadable xs ys) (uri : String) :
    ((ofChanges xs).readResource uri).1 = ((ofChanges ys).readResource uri).1 := by
  have hresources : (ofChanges xs).resources = (ofChanges ys).resources :=
    Dict.ext_get? fun key => Option.ext fun c => by
      rw [get?_resources_ofChanges, get?_resources_ofChanges, h _ (.inl rfl)]
  have htemplates : (ofChanges xs).templates = (ofChanges ys).templates :=
    Dict.ext_get? fun key => Option.ext fun c => by
      rw [get?_templates_ofChanges, get?_templates_ofChanges, h _ (.inr rfl)]
  have htemplate : (ofChanges xs).templateFor? uri = (ofChanges ys).templateFor? uri := by
    rw [templateFor?, templateFor?, htemplates]
  rw [Registry.readResource, Registry.readResource, hresources, htemplate]
  split
  · rfl
  · split <;> rfl

/-- **Readings.** After any changes, a reading of a URI comes to what one component says, and
    which one it is follows from those that stand: the resource of that very URI, or else the
    first template that the URI is an instance of. If there is neither, the contents are
    empty. -/
theorem readResource_selects (xs : List Change) (uri : String) :
    (∀ x, Selects xs uri x ↔ x = (ofChanges xs).readResource uri) ∧
      ∀ ys, SameReadable xs ys →
        ((ofChanges xs).readResource uri).1 = ((ofChanges ys).readResource uri).1 := by
  refine ⟨fun x => ⟨Selects.eq_readResource, ?_⟩, fun ys hys => hys.readResource uri⟩
  rintro rfl
  exact selects_of_readResource xs uri

end Registry

end ContextServer
