import ContextServer.Proofs.Server.Usage

/-!
# Listings

A family of components is listed by their descriptors, in the order of bytes of their keys
(`Registry.listed`). So the listing is told by the components that stand after the changes of
the registry: they are listed, each once, and nothing else is (`Family.IsListing`), whatever
the components were asked in between (`Registry.Later.listed`).
-/

namespace ContextServer

/-! ## Descriptors -/

/-- What clients learn about a component. -/
inductive Descriptor where
  | tool (t : Tool)
  | resource (r : Resource)
  | template (t : ResourceTemplate)
  | prompt (p : Prompt)

/-- The descriptor as it is written. -/
def Descriptor.written : Descriptor → Json
  | tool t => Tool.shape.encode t
  | resource r => Resource.shape.encode r
  | template t => ResourceTemplate.shape.encode t
  | prompt p => Prompt.shape.encode p

/-- The descriptor of a component. -/
def Component.descriptor : Component → Descriptor
  | tool c => .tool c.descriptor
  | resource c => .resource c.descriptor
  | template c => .template c.descriptor
  | prompt c => .prompt c.descriptor

namespace Family

/-- The route that lists a family. -/
def listRoute : Family → Route
  | tools => .toolsList
  | resources => .resourcesList
  | templates => .templatesList
  | prompts => .promptsList

/-- The member of a listing that holds the descriptors. -/
def member : Family → String
  | tools => "tools"
  | resources => "resources"
  | templates => "resourceTemplates"
  | prompts => "prompts"

/-- The listing of a family as it is written. -/
def listing (f : Family) (ds : List Descriptor) : Json :=
  .object [(f.member, .array (ds.map Descriptor.written))]

/-- The components are those of a family that stand after changes, in the order of bytes of
    their keys. -/
structure IsListing (f : Family) (xs : List Change) (cs : List Component) : Prop where
  mem : ∀ c, c ∈ cs ↔ c.StandsAfter xs ∧ c.family = f
  ascending : cs.Pairwise fun c c' => Utf8.Precedes c.key c'.key

end Family

namespace Registry

variable {r r' : Registry} {f : Family} {c : Component}

/-- What is listed of a family. -/
def listed (r : Registry) : Family → List Descriptor
  | .tools => r.listTools.map .tool
  | .resources => r.listResources.map .resource
  | .templates => r.listTemplates.map .template
  | .prompts => r.listPrompts.map .prompt

/-- The components of a family in the order of their keys. -/
def components (r : Registry) : Family → List Component
  | .tools => r.tools.values.map .tool
  | .resources => r.resources.values.map .resource
  | .templates => r.templates.values.map .template
  | .prompts => r.prompts.values.map .prompt

theorem listed_eq (r : Registry) (f : Family) :
    r.listed f = (r.components f).map Component.descriptor := by
  cases f <;>
    simp only [listed, components, listTools, listResources, listTemplates, listPrompts,
      List.map_map] <;> rfl

/-- What was asked has no part in the listing. -/
theorem Later.listed (h : r.Later r') (f : Family) : r'.listed f = r.listed f := by
  cases f with
  | tools => rw [Registry.listed, ← listTools_unasked, h.unasked, listTools_unasked]; rfl
  | resources =>
    rw [Registry.listed, ← listResources_unasked, h.unasked, listResources_unasked]; rfl
  | templates =>
    rw [Registry.listed, ← listTemplates_unasked, h.unasked, listTemplates_unasked]; rfl
  | prompts => rw [Registry.listed, ← listPrompts_unasked, h.unasked, listPrompts_unasked]; rfl

theorem mem_components : c ∈ r.components f ↔ ∃ key, r.component? f key = some c := by
  have hvalues {α : Type} {d : Dict α} {up : α → Component} :
      c ∈ d.values.map up ↔ ∃ key, (d.get? key).map up = some c := by
    simp only [List.mem_map, Dict.mem_values, Option.map_eq_some_iff]
    exact ⟨fun ⟨a, ⟨key, ha⟩, hc⟩ => ⟨key, a, ha, hc⟩,
      fun ⟨key, a, ha, hc⟩ => ⟨a, ⟨key, ha⟩, hc⟩⟩
  cases f <;> exact hvalues

theorem IsKeyed.pairwise_components (hkeyed : r.IsKeyed) (f : Family) :
    (r.components f).Pairwise fun c c' => Utf8.Precedes c.key c'.key := by
  have hvalues {α : Type} {d : Dict α} {up : α → Component}
      (hfound : ∀ key a, d.get? key = some a → r.component? f key = some (up a)) :
      (d.values.map up).Pairwise fun c c' => Utf8.Precedes c.key c'.key := by
    rw [Dict.values, List.map_map, List.pairwise_map]
    refine d.ascending.imp_of_mem fun {e e'} he he' hlt => Utf8.precedes_iff_lt.2 ?_
    rw [Function.comp_apply, Function.comp_apply,
      (hkeyed f _ _ (hfound _ _ (Dict.mem_entries.1 he))).2,
      (hkeyed f _ _ (hfound _ _ (Dict.mem_entries.1 he'))).2]
    exact hlt
  cases f <;> exact hvalues fun key a ha => by rw [component?, ha, Option.map_some]

/-- The components of a registry are the listing of those that stand after its changes. -/
theorem isListing_components (xs : List Change) (f : Family) :
    f.IsListing xs ((ofChanges xs).components f) where
  mem c := by
    rw [mem_components]
    simp only [component?_ofChanges]
    exact ⟨fun ⟨_, hstands, hfamily, _⟩ => ⟨hstands, hfamily⟩,
      fun ⟨hstands, hfamily⟩ => ⟨c.key, hstands, hfamily, rfl⟩⟩
  ascending := (isKeyed_ofChanges xs).pairwise_components f

end Registry

/-! ## Requests for listings -/

/-- A record of a list and of no cursor is written as the listing of a family. -/
theorem encode_page {α β : Type} {name : String} {item : Shape α}
    {view : View β (List α × Option String × Unit)} (f : Family) {up : α → Descriptor}
    (hup : ∀ a, (up a).written = item.encode a) (as : List α) :
    (Shape.record name (.required f.member (.list item)
      (.optional "nextCursor" false .string .nil)) view).encode (view.pack (as, none, ())) =
      f.listing (as.map up) := by
  have hitems : (as.map up).map Descriptor.written = as.map item.encode := by
    rw [List.map_map]
    exact List.map_congr_left fun a _ => hup a
  rw [Family.listing, hitems, Shape.encode, Shape.encodeWith, view.unpack_pack]
  rfl

namespace Server

variable {server : Server} {s : Session}

/-- A request for a listing gets it, if its params decode. -/
theorem serve_listRoute (f : Family) (params : Option Json) :
    server.serve s f.listRoute params =
      server.given s PaginatedRequest.shape params fun _ =>
        server.only s (.returned (f.listing (server.registry.listed f))) := by
  have hpage {j j' : Json} (h : j = j') :
      server.given s PaginatedRequest.shape params (fun _ => server.only s (.returned j)) =
        server.given s PaginatedRequest.shape params fun _ => server.only s (.returned j') := by
    rw [h]
  cases f with
  | tools => exact hpage (encode_page .tools (fun _ => rfl) _)
  | resources => exact hpage (encode_page .resources (fun _ => rfl) _)
  | templates => exact hpage (encode_page .templates (fun _ => rfl) _)
  | prompts => exact hpage (encode_page .prompts (fun _ => rfl) _)

end Server

end ContextServer
