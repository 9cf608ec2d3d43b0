import Mathlib.Data.String.Basic
import ContextServer.Http.Exchange

/-!
# Targets

What a target names. A text is cut at one character where the list of its characters is
(`splitOn_singleton`), and a text without that character is not cut (`Http.cut_of_not_mem`). So
a target that is nothing but a path names that path, and has no query
(`Http.Request.path_of_plain`); and a form with nothing in it has no pairs
(`Http.formPairs_empty`).
-/

namespace ContextServer

open String (utf8Len)

/-- The part of a text between two others. -/
theorem extract_between (l m r : List Char) :
    String.Pos.Raw.extract (String.ofList (l ++ m ++ r)) ⟨utf8Len l⟩ ⟨utf8Len (l ++ m)⟩ =
      String.ofList m := by
  rw [String.utf8Len_append]
  exact String.extract_of_valid l m r

/-- The walk that cuts a text `l ++ m ++ r` at a character: the pieces before `l` are done, `m` is
    the part of the next one that was seen, and `r` is to come. -/
theorem splitOnAux_singleton (c : Char) (l m r : List Char) (done : List String) :
    (String.ofList (l ++ m ++ r)).splitOnAux (String.ofList [c]) ⟨utf8Len l⟩
        ⟨utf8Len (l ++ m)⟩ 0 done =
      done.reverse ++ (List.splitOnPPrepend (· == c) r m.reverse).map String.ofList := by
  induction r generalizing l m done with
  | nil =>
    rw [String.splitOnAux, if_pos ((String.atEnd_of_valid (l ++ m) []).2 rfl), extract_between,
      List.splitOnPPrepend_nil, List.reverse_reverse, List.reverse_cons]
    rfl
  | cons d r ih =>
    have hmark : String.Pos.Raw.get (String.ofList [c]) 0 = c := String.get_of_valid [] [c]
    have hmarkNext : String.Pos.Raw.next (String.ofList [c]) 0 = ⟨utf8Len [c]⟩ :=
      String.next_of_valid [] c []
    have hmarkEnd : String.Pos.Raw.atEnd (String.ofList [c]) ⟨utf8Len [c]⟩ = true :=
      (String.atEnd_of_valid [c] []).2 rfl
    have hnext : String.Pos.Raw.next (String.ofList (l ++ m ++ d :: r)) ⟨utf8Len (l ++ m)⟩ =
        ⟨utf8Len (l ++ m ++ [d])⟩ := by
      rw [String.next_of_valid, String.utf8Len_append (l ++ m)]
      simp
    rw [String.splitOnAux,
      if_neg fun h => List.cons_ne_nil d r ((String.atEnd_of_valid (l ++ m) (d :: r)).1 h),
      String.get_of_valid, hmark, List.headD_cons, hnext]
    by_cases hd : (d == c) = true
    · -- The piece is done, and the next one begins behind the character.
      obtain rfl := eq_of_beq hd
      have hback : String.Pos.Raw.unoffsetBy ⟨utf8Len (l ++ m ++ [d])⟩ ⟨utf8Len [d]⟩ =
          ⟨utf8Len (l ++ m)⟩ := by
        rw [String.utf8Len_append (l ++ m), String.Pos.Raw.unoffsetBy, Nat.add_sub_cancel]
      have hih := ih (l ++ m ++ [d]) [] (String.ofList m :: done)
      rw [if_pos hd, hmarkNext]
      dsimp only
      rw [if_pos hmarkEnd, hback, extract_between, List.splitOnPPrepend_cons_eq_if,
        if_pos hd, List.reverse_reverse, List.map_cons]
      simpa only [List.append_nil, List.append_assoc, List.singleton_append, List.nil_append,
        List.reverse_nil, List.reverse_cons, List.splitOnPPrepend_nil_right] using hih
    · have hih := ih l (m ++ [d]) done
      have hstay : String.Pos.Raw.unoffsetBy ⟨utf8Len (l ++ m)⟩ 0 = ⟨utf8Len (l ++ m)⟩ := rfl
      rw [if_neg hd, hstay, hnext, List.splitOnPPrepend_cons_eq_if, if_neg hd]
      simpa only [List.append_assoc, List.singleton_append, List.reverse_append,
        List.reverse_singleton] using hih

/-- A text is cut at a character where the list of its characters is. -/
theorem splitOn_singleton (c : Char) (text : String) :
    text.splitOn (String.ofList [c]) = (text.toList.splitOn c).map String.ofList := by
  have hne : (String.ofList [c] == "") = false := by
    rw [beq_eq_false_iff_ne]
    exact fun h => List.cons_ne_nil c [] (by simpa using congrArg String.toList h)
  have haux := splitOnAux_singleton c [] [] text.toList []
  rw [List.nil_append, List.nil_append, String.ofList_toList] at haux
  rw [String.splitOn, hne, if_neg Bool.false_ne_true]
  exact haux

namespace Http

theorem cut_of_not_mem {c : Char} {mark text : String} (hmark : mark = String.ofList [c])
    (h : c ∉ text.toList) : cut mark text = (text, "") := by
  rw [cut, hmark, splitOn_singleton, List.splitOn_eq_singleton h, List.map_singleton, String.ofList_toList]
  rfl

/-- A target that is a path names that path. -/
theorem Request.path_of_plain {r : Request} {path : String} (htarget : r.target = path)
    (hpath : path.toList.head? = some '/') (hfragment : '#' ∉ path.toList)
    (hquery : '?' ∉ path.toList) : r.path = path ∧ r.query = "" := by
  have hresource : r.resource = path := by
    obtain ⟨cs, hcs⟩ := List.head?_eq_some_iff.1 hpath
    rw [Request.resource, htarget, hcs, Http.resource, ← hcs, String.ofList_toList,
      cut_of_not_mem rfl hfragment]
  rw [Request.path, Request.query, hresource, cut_of_not_mem rfl hquery]
  exact ⟨rfl, rfl⟩

/-- No pairs are written with nothing. -/
theorem formPairs_empty : formPairs "" = [] := by
  have hpieces : "".splitOn "&" = [""] := splitOn_singleton '&' ""
  rw [formPairs, hpieces]
  rfl

end Http

end ContextServer
