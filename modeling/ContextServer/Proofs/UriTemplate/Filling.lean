import ContextServer.Proofs.UriTemplate.Matching
import Mathlib.Data.List.Nodup

/-!
# Filling in

What a template and the values in place of its variables have to do with what the matcher
reports. Put in place of the variables one by one, the values that a URI was matched with
always give the URI (`decomposes_iff`). The report has them by name, however, and so only
the last value of a name that the template repeats. Filled in by name, they give the URI
again if every name had one value (`match_faithful`), as it has if no name is repeated.

The other way round, values that are filled into a template are reported again exactly if
none of them breaks off early, and the URI matches at all exactly if it can be filled in
from such values (`match_filled`).
-/

namespace ContextServer

namespace UriTemplate

variable {ps : List Piece} {bs : Bindings} {d : Dict String}

/-! ## Values by name -/

/-- The value of a name; without one nothing stands in its place. -/
def valueIn (d : Dict String) (name : List Char) : List Char :=
  ((d.get? (String.ofList name)).getD "").toList

/-- The text of the pieces with the values of a dictionary in place of the variables. -/
def substitute (d : Dict String) (ps : List Piece) : List Char :=
  fill ps ((names ps).map (valueIn d))

/-- Every name is bound to one value only. -/
def Consistent (bs : Bindings) : Prop :=
  ∀ name value value', (name, value) ∈ bs → (name, value') ∈ bs → value = value'

/-- The dictionary has the value of every binding under its name. -/
def Knows (d : Dict String) (bs : Bindings) : Prop :=
  ∀ b ∈ bs, d.get? (String.ofList b.1) = some (String.ofList b.2)

theorem consistent_of_nodup (h : (bs.map (·.1)).Nodup) : Consistent bs :=
  fun _ _ _ hv hv' => congrArg Prod.snd (List.inj_on_of_nodup_map h hv hv' rfl)

theorem Knows.valueIn (h : Knows d bs) {b : List Char × List Char} (hb : b ∈ bs) :
    valueIn d b.1 = b.2 := by
  rw [UriTemplate.valueIn, h b hb, Option.getD_some, String.toList_ofList]

/-- Values that are known are found by their names. -/
theorem Knows.map_snd (h : Knows d bs) :
    bs.map (·.2) = (bs.map (·.1)).map (UriTemplate.valueIn d) := by
  rw [List.map_map]
  exact List.map_congr_left fun b hb => (h.valueIn hb).symm

theorem Knows.consistent (h : Knows d bs) : Consistent bs :=
  fun _ _ _ hv hv' => (h.valueIn hv).symm.trans (h.valueIn hv')

/-! ## What is reported -/

theorem mem_texts {name value : String} :
    (name, value) ∈ texts bs ↔ (name.toList, value.toList) ∈ bs := by
  rw [texts, List.mem_map]
  constructor
  · rintro ⟨b, hb, heq⟩
    obtain ⟨rfl, rfl⟩ := Prod.mk.inj heq
    rwa [String.toList_ofList, String.toList_ofList]
  · exact fun h => ⟨_, h, Prod.ext String.ofList_toList String.ofList_toList⟩

/-- A reported value was bound. -/
theorem IsLast.mem {name value : String} (h : IsLast bs d) (hget : d.get? name = some value) :
    (name.toList, value.toList) ∈ bs := by
  rw [isLast_iff.1 h] at hget
  exact mem_texts.1 (Dict.mem_of_get?_ofList hget)

/-- The names that are reported are those that were bound. -/
theorem IsLast.contains_iff (h : IsLast bs d) (name : String) :
    d.contains name = true ↔ name ∈ (bs.map (·.1)).map String.ofList := by
  rw [isLast_iff.1 h, Dict.contains_ofList, texts, List.map_map, List.map_map]
  rfl

/-- A name that was bound is reported with one of its values. -/
theorem IsLast.bound (h : IsLast bs d) {name : List Char} (hname : name ∈ bs.map (·.1)) :
    d.get? (String.ofList name) = some (String.ofList (valueIn d name)) ∧
      (name, valueIn d name) ∈ bs := by
  obtain ⟨value, hget⟩ := Option.isSome_iff_exists.1
    ((h.contains_iff (String.ofList name)).2 (List.mem_map_of_mem hname))
  have hvalue : valueIn d name = value.toList := by rw [valueIn, hget, Option.getD_some]
  have hmem := h.mem hget
  rw [String.toList_ofList] at hmem
  exact ⟨by rw [hget, hvalue, String.ofList_toList], hvalue ▸ hmem⟩

/-- Where every name has one value, this is what is reported. -/
theorem IsLast.knows (h : IsLast bs d) (hbs : Consistent bs) : Knows d bs := by
  intro b hb
  obtain ⟨hget, hmem⟩ := h.bound (List.mem_map_of_mem hb)
  rw [hget, hbs _ _ _ hb hmem]

/-! ## From the URI to the template and back -/

section

variable {template uri : String}

/-- By name, the values of a consistent match give the URI again. -/
theorem Leftmost.substitute (h : Leftmost template uri ps bs) (hd : Knows d bs) :
    substitute d ps = uri.toList := by
  obtain ⟨hnames, -, -, htext⟩ := decomposes_iff.1 h.values
  rw [UriTemplate.substitute, ← hnames, ← hd.map_snd, htext]

/-- If the reported values give the URI by name and every literal behind a variable starts
    with a slash, they are those of the match. -/
theorem Leftmost.knows_of_substitute (h : Leftmost template uri ps bs) (hlast : IsLast bs d)
    (hps : SlashBehind ps) (htext : UriTemplate.substitute d ps = uri.toList) : Knows d bs := by
  obtain ⟨hnames, hv, -, -⟩ := decomposes_iff.1 h.values
  have hlen : ((names ps).map (valueIn d)).length = (names ps).length := List.length_map ..
  have hreported : ∀ v ∈ (names ps).map (valueIn d), v ≠ [] ∧ '/' ∉ v := by
    intro v hmem
    obtain ⟨name, hname, rfl⟩ := List.mem_map.1 hmem
    exact hv _ (hlast.bound (hnames ▸ hname)).2
  -- The URI has one decomposition, so the values by name are those of the match.
  have hfilled := decomposes_fill hps hlen hreported
  rw [UriTemplate.substitute] at htext
  rw [htext] at hfilled
  have hvalues := congrArg (List.map (·.2)) (h.values.unique h.apart hfilled)
  rw [List.map_snd_zip (Nat.le_of_eq hlen), ← hnames, List.map_map, List.map_inj_left] at hvalues
  intro b hb
  rw [(hlast.bound (List.mem_map_of_mem hb)).1]
  exact congrArg (fun v => some (String.ofList v)) (hvalues b hb).symm

/-- **Faithful bindings.** What is reported for a URI are the names of the template, each
    with a value that is not empty and has no slash. The URI is the text of the template
    with the values that its variables were matched with, one by one. By name they give the
    URI again if no name was matched with two values, as none is if no name is repeated; and
    only then, if every literal behind a variable starts with a slash. -/
theorem match_faithful (template uri : String) (d : Dict String)
    (hmatch : match? template uri = some d) :
    ∃ ps bs, Leftmost template uri ps bs ∧
      (∀ name, d.contains name = true ↔ name ∈ (names ps).map String.ofList) ∧
      (∀ name value, d.get? name = some value → value ≠ "" ∧ '/' ∉ value.toList) ∧
      bs.map (·.1) = names ps ∧ fill ps (bs.map (·.2)) = uri.toList ∧
      ((names ps).Nodup → Consistent bs) ∧
      (Consistent bs → substitute d ps = uri.toList) ∧
      (SlashBehind ps → substitute d ps = uri.toList → Consistent bs) := by
  obtain ⟨ps, bs, h, hlast⟩ := match?_eq_some_iff.1 hmatch
  obtain ⟨hnames, hv, -, htext⟩ := decomposes_iff.1 h.values
  refine ⟨ps, bs, h, ?_, ?_, hnames, htext, ?_, ?_, ?_⟩
  · rw [← hnames]
    exact hlast.contains_iff
  · intro name value hget
    obtain ⟨hne, hslash⟩ := hv _ (hlast.mem hget)
    exact ⟨fun he => hne (congrArg String.toList he), hslash⟩
  · exact fun hnodup => consistent_of_nodup (hnames ▸ hnodup)
  · exact fun hbs => h.substitute (hlast.knows hbs)
  · exact fun hps hsub => (h.knows_of_substitute hlast hps hsub).consistent

/-- A value that goes on past a later occurrence of the literal before it. -/
theorem match_faithful_dots :
    let d : Dict String := .ofList [("name", "x"), ("rest", "y.z")]
    let ps : List Piece := [.variable ['n', 'a', 'm', 'e'], .literal ['.'],
      .variable ['r', 'e', 's', 't']]
    match? "{name}.{rest}" "x.y.z" = some d ∧ parse? "{name}.{rest}" = some ps ∧
      substitute d ps = "x.y.z".toList := by
  intro d ps
  have hmatch : match? "{name}.{rest}" "x.y.z" = some d := by decide +kernel
  have hparse : parse? "{name}.{rest}" = some ps := by decide +kernel
  obtain ⟨ps', bs, h, -, -, -, -, hnodup, hsub, -⟩ := match_faithful _ _ d hmatch
  obtain rfl : ps' = ps :=
    Option.some.inj ((pieces?_eq_some_iff.2 ⟨h.neat, h.text⟩).symm.trans hparse)
  exact ⟨hmatch, hparse, hsub (hnodup (by decide))⟩

/-- A name that is repeated has the value of its last variable, which is put in place of the
    first one, too. -/
theorem match_faithful_repeated :
    let d : Dict String := .ofList [("x", "2")]
    let ps : List Piece := [.literal ['/'], .variable ['x'], .literal ['/'], .variable ['x']]
    match? "/{x}/{x}" "/1/2" = some d ∧ parse? "/{x}/{x}" = some ps ∧
      substitute d ps = "/2/2".toList ∧ substitute d ps ≠ "/1/2".toList := by
  decide +kernel

/-! ## From the values to the URI and back -/

/-- The values are one for every variable, and none is empty or has a slash. -/
structure Assigns (ps : List Piece) (values : List (List Char)) : Prop where
  length : values.length = (names ps).length
  proper : ∀ v ∈ values, v ≠ [] ∧ '/' ∉ v

variable {values : List (List Char)}

/-- Unless a value breaks off early, the values are those of a match. -/
theorem Assigns.leftmost (h : Assigns ps values) (hneat : Neat ps)
    (htext : render ps = template.toList) (hapart : Apart ps) (hu : Unbroken ps values) :
    Leftmost template (String.ofList (fill ps values)) ps ((names ps).zip values) where
  neat := hneat
  text := htext
  apart := hapart
  values := by
    rw [String.toList_ofList]
    exact (decomposes_fill_iff h.length h.proper).2 hu

/-- The values of a match are an assignment that gives the URI, and none breaks off early. -/
theorem Leftmost.assigns (h : Leftmost template uri ps bs) :
    Assigns ps (bs.map (·.2)) ∧ Unbroken ps (bs.map (·.2)) ∧
      fill ps (bs.map (·.2)) = uri.toList := by
  obtain ⟨hnames, hv, hu, htext⟩ := decomposes_iff.1 h.values
  refine ⟨⟨?_, List.forall_mem_map.2 hv⟩, hu, htext⟩
  rw [← hnames, List.length_map, List.length_map]

/-- **Completeness.** Values that are filled into a template without adjacent variables and
    without repeated names are reported for the URI, each under its name, exactly if none of
    them breaks off early. The URI matches at all exactly if there are such values that give
    the same URI. -/
theorem match_filled (template : String) (ps : List Piece) (hneat : Neat ps)
    (htext : render ps = template.toList) (hapart : Apart ps) (hnames : (names ps).Nodup)
    (values : List (List Char)) (hvalues : Assigns ps values) :
    let uri := String.ofList (fill ps values)
    ((∃ d, match? template uri = some d ∧ Knows d ((names ps).zip values)) ↔
      Unbroken ps values) ∧
    ((∃ d, match? template uri = some d) ↔
      ∃ values', Assigns ps values' ∧ Unbroken ps values' ∧
        fill ps values' = fill ps values) := by
  intro uri
  have hfst : ((names ps).zip values).map (·.1) = names ps :=
    List.map_fst_zip (Nat.le_of_eq hvalues.length.symm)
  have hsnd : ((names ps).zip values).map (·.2) = values :=
    List.map_snd_zip (Nat.le_of_eq hvalues.length)
  refine ⟨⟨?_, fun hu => ?_⟩, ?_, ?_⟩
  · rintro ⟨d, hmatch, hd⟩
    obtain ⟨qs, bs, h, hlast⟩ := match?_eq_some_iff.1 hmatch
    obtain rfl := h.neat.eq_of_render hneat (h.text.trans htext.symm)
    obtain ⟨hbound, -, hu, -⟩ := decomposes_iff.1 h.values
    -- Both are the values that the dictionary has under the names.
    have hbs : Knows d bs := hlast.knows (consistent_of_nodup (hbound ▸ hnames))
    have hsame : bs.map (·.2) = values := by
      rw [hbs.map_snd, hbound, ← hsnd, hd.map_snd, hfst]
    exact hsame ▸ hu
  · obtain ⟨d, hmatch, hlast⟩ := (hvalues.leftmost hneat htext hapart hu).found
    exact ⟨d, hmatch, hlast.knows (consistent_of_nodup (hfst.symm ▸ hnames))⟩
  · rintro ⟨d, hmatch⟩
    obtain ⟨qs, bs, h, -⟩ := match?_eq_some_iff.1 hmatch
    obtain rfl := h.neat.eq_of_render hneat (h.text.trans htext.symm)
    obtain ⟨hassigns, hu, huri⟩ := h.assigns
    exact ⟨_, hassigns, hu, huri.trans String.toList_ofList⟩
  · rintro ⟨values', hvalues', hu, huri⟩
    obtain ⟨d, hmatch, -⟩ := (hvalues'.leftmost hneat htext hapart hu).found
    rw [huri] at hmatch
    exact ⟨d, hmatch⟩

/-- A value that holds a part of the literal behind it. -/
theorem match_filled_part :
    let ps : List Piece := [.variable ['n'], .literal ['.', 't', 'x', 't']]
    Neat ps ∧ Apart ps ∧ Assigns ps [['a', '.', 't', 'x']] ∧
      ∃ d, match? "{n}.txt" "a.tx.txt" = some d ∧ d.get? "n" = some "a.tx" := by
  intro ps
  have hneat : Neat ps := ⟨by simp [ps, Piece.IsProper], by simp [ps, Piece.isVariable]⟩
  have hapart : Apart ps := by simp [ps, Apart, Piece.isVariable]
  have hvalues : Assigns ps [['a', '.', 't', 'x']] := ⟨rfl, by decide⟩
  have hu : Unbroken ps [['a', '.', 't', 'x']] := by
    simp [ps, Unbroken, fill, notWithin_cons, notWithin_nil]
  obtain ⟨d, hmatch, hd⟩ := (match_filled "{n}.txt" ps hneat (by decide +kernel) hapart
    (by decide) _ hvalues).1.2 hu
  exact ⟨hneat, hapart, hvalues, d, hmatch, hd _ List.mem_cons_self⟩

/-- A value that holds the whole literal is broken off there, and what is left is too much:
    the URI is not matched. -/
theorem match_filled_whole :
    let ps : List Piece := [.variable ['n'], .literal ['.', 't', 'x', 't']]
    Neat ps ∧ render ps = "{n}.txt".toList ∧ Apart ps ∧ (names ps).Nodup ∧
      Assigns ps [['a', '.', 't', 'x', 't']] ∧
      String.ofList (fill ps [['a', '.', 't', 'x', 't']]) = "a.txt.txt" ∧
      match? "{n}.txt" "a.txt.txt" = none := by
  intro ps
  have hneat : Neat ps := ⟨by simp [ps, Piece.IsProper], by simp [ps, Piece.isVariable]⟩
  have hapart : Apart ps := by simp [ps, Apart, Piece.isVariable]
  exact ⟨hneat, by decide +kernel, hapart, by decide, ⟨rfl, by decide⟩, by decide +kernel,
    by decide +kernel⟩

end

end UriTemplate

end ContextServer
