import ContextServer.Proofs.Dict
import ContextServer.Server.Subscriptions

/-!
# The table of subscriptions

Who is subscribed to what after the subscribers of a URI were looked through
(`Subscriptions.holds_keep`) and after a session was taken out everywhere
(`Subscriptions.holds_forget`). No operation leaves a URI in the table that nobody is
subscribed to (`Subscriptions.IsTidy`), and so a subscription changes the table exactly if
there was none, and its end exactly if there was one (`Subscriptions.IsTidy.add_eq_self_iff`,
`Subscriptions.IsTidy.remove_eq_self_iff`).
-/

namespace ContextServer

namespace Subscriptions

variable {t : Subscriptions} {uri : String} {session : String}

/-! ## Subscribers -/

theorem holds_keep (t : Subscriptions) (uri : String) (test : String → Bool)
    (uri' session : String) :
    (t.keep uri test).holds uri' session =
      (t.holds uri' session && (decide (uri ≠ uri') || test session)) := by
  rw [holds, keep, subscribers_put]
  by_cases h : uri = uri'
  · subst h
    rw [if_pos rfl, holds, Dict.contains, Dict.get?_filter, Dict.contains]
    cases (t.subscribers uri).get? session <;> cases test session <;> simp [Option.filter]
  · simp [h, holds]

theorem holds_eq_false_of_not_mem_keys (h : uri ∉ t.table.keys) : t.holds uri session = false := by
  rw [Dict.mem_keys, Dict.contains, Bool.not_eq_true, Option.isSome_eq_false_iff,
    Option.isNone_iff_eq_none] at h
  rw [holds, subscribers, h]
  rfl

/-- A session that is taken out of some URIs is subscribed to the others as before. -/
theorem holds_foldl_remove (uris : List String) (t : Subscriptions) (uri session' : String) :
    (uris.foldl (fun t uri => t.remove uri session) t).holds uri session' =
      (!decide (uri ∈ uris ∧ session = session') && t.holds uri session') := by
  induction uris generalizing t with
  | nil => simp
  | cons uri₀ uris ih =>
    rw [List.foldl_cons, ih, holds_remove]
    by_cases h : uri₀ = uri <;> by_cases h' : session = session' <;>
      simp [h, h', eq_comm (a := uri)]

theorem holds_forget (t : Subscriptions) (session uri session' : String) :
    (t.forget session).holds uri session' =
      (!decide (session = session') && t.holds uri session') := by
  rw [forget, holds_foldl_remove]
  by_cases h : uri ∈ t.table.keys
  · simp [h]
  · simp [holds_eq_false_of_not_mem_keys h]

/-! ## Tidiness -/

/-- Every URI in the table has a subscriber. -/
def IsTidy (t : Subscriptions) : Prop :=
  ∀ uri subscribers, t.table.get? uri = some subscribers → subscribers ≠ ∅

theorem isTidy_empty : IsTidy {} := nofun

theorem IsTidy.put (h : t.IsTidy) (uri : String) (subscribers : Dict Unit) :
    (t.put uri subscribers).IsTidy := by
  intro uri' subscribers' hget
  rw [Subscriptions.put] at hget
  dsimp only at hget
  split at hget
  · rw [Dict.get?_erase] at hget
    split at hget
    · cases hget
    · exact h uri' subscribers' hget
  · next hne =>
    rw [Dict.get?_insert] at hget
    split at hget
    · cases hget
      exact fun he => hne (Dict.isEmpty_iff.2 he)
    · exact h uri' subscribers' hget

theorem IsTidy.add (h : t.IsTidy) (uri session : String) : (t.add uri session).IsTidy :=
  h.put uri _

theorem IsTidy.remove (h : t.IsTidy) (uri session : String) : (t.remove uri session).IsTidy :=
  h.put uri _

/-- In a tidy table, the subscribers of a URI are what they were if they are put back. -/
theorem IsTidy.put_subscribers (h : t.IsTidy) (uri : String) :
    t.put uri (t.subscribers uri) = t := by
  rw [Subscriptions.put, Subscriptions.subscribers]
  cases hget : t.table.get? uri with
  | none =>
    rw [Option.getD_none, if_pos (Dict.isEmpty_iff.2 rfl), Dict.erase_of_get? hget]
  | some subscribers =>
    have hne : ¬subscribers.isEmpty = true := fun he => h uri _ hget (Dict.isEmpty_iff.1 he)
    rw [Option.getD_some, if_neg hne, Dict.insert_of_get? hget]

/-- To subscribe makes a difference to those who were not subscribed. -/
theorem IsTidy.add_eq_self_iff (h : t.IsTidy) :
    t.add uri session = t ↔ t.holds uri session = true := by
  constructor
  · intro he
    rw [← he, holds_add]
    simp
  · intro hsub
    obtain ⟨_, hget⟩ := Option.isSome_iff_exists.1 hsub
    rw [Subscriptions.add, Dict.insert_of_get? hget, h.put_subscribers]

/-- To be taken out makes a difference to those who were subscribed. -/
theorem IsTidy.remove_eq_self_iff (h : t.IsTidy) :
    t.remove uri session = t ↔ t.holds uri session = false := by
  constructor
  · intro he
    rw [← he, holds_remove]
    simp
  · intro hsub
    have hget : (t.subscribers uri).get? session = none :=
      Option.isNone_iff_eq_none.1 (Option.isSome_eq_false_iff.1 hsub)
    rw [Subscriptions.remove, Dict.erase_of_get? hget, h.put_subscribers]

theorem IsTidy.keep (h : t.IsTidy) (uri : String) (test : String → Bool) :
    (t.keep uri test).IsTidy :=
  h.put uri _

theorem IsTidy.forget (h : t.IsTidy) (session : String) : (t.forget session).IsTidy :=
  List.foldlRecOn _ _ h fun _ ht uri _ => ht.remove uri session

end Subscriptions

end ContextServer
