import MeshControl.Http.Url
import MeshControl.Proofs.Http.Reading
import MeshControl.Proofs.Text.Percent

/-!
# What the query of an address says

The fields of an address are those that its query stands for.  Fields that are added to an address are
read behind its own, whatever those are (`fields_withFields`): the ampersand between them ends the last
field that was there, and none of the characters that are added begins another one.  An address that is
written without a question mark has no fields of its own (`fields_eq_nil_of_read`).
-/

namespace MeshControl.Http.Url

open MeshControl.Text

/-- The fields of an address: the pairs that its query stands for. -/
def fields (url : Url) : List (String × String) :=
  (url.query?.map fun query => Form.decode (String.ofList query)).getD []

variable {url : Url}

/-! ### Fields that are added -/

/-- Two forms with an ampersand between them are one form with the fields of both. -/
theorem decode_append (first second : List Char) :
    Form.decode (String.ofList (first ++ '&' :: second)) =
      Form.decode (String.ofList first) ++ Form.decode (String.ofList second) := by
  have hsplit : (first ++ '&' :: second).splitOn '&' = first.splitOn '&' ++ second.splitOn '&' :=
    List.splitOnP_append_cons first second (beq_self_eq_true '&')
  simp only [Form.decode, String.toList_ofList, hsplit, List.filter_append, List.map_append]

/-- Fields that are added to an address are read behind its own. -/
theorem fields_withFields (added : List (String × String)) :
    (url.withFields added).fields = url.fields ++ added := by
  -- an empty query counts as none, and none is written for no fields
  have hwritten : ∀ query : List Char,
      ((if query.isEmpty then none else some query).map fun cs =>
        Form.decode (String.ofList cs)).getD [] = Form.decode (String.ofList query) := by
    intro query
    cases query with
    | nil => rfl
    | cons c cs => rfl
  have hadded : Form.decode (String.ofList (Form.encode added).toList) = added := by
    rw [String.ofList_toList, Form.decode_encode]
  rw [fields, fields, withFields, hwritten]
  rcases url.query? with _ | _ | ⟨c, cs⟩
  · exact hadded
  · exact hadded
  · have hboth := decode_append (c :: cs) (Form.encode added).toList
    rw [hadded] at hboth
    exact hboth

/-! ### Addresses without a query -/

theorem notMem_cleaned {c : Char} {cs : List Char} (h : c ∉ cs) : c ∉ cleaned cs := by
  have hsub : (cleaned cs).Sublist cs := by
    rw [cleaned_eq]
    exact (kept_sublist _).trans (List.dropWhile_sublist _)
  exact fun hc => h (hsub.subset hc)

/-- What follows the colon behind a scheme is a part of the address. -/
theorem notMem_of_scheme? {c : Char} {cs rest : List Char} {scheme : String} (h : c ∉ cs)
    (hscheme : scheme? cs = some (scheme, rest)) : c ∉ rest := by
  unfold scheme? at hscheme
  split at hscheme
  · next name after hcut =>
    obtain ⟨hcs, _⟩ := splitFirst?_eq_some hcut
    split at hscheme
    · dsimp only at hscheme
      split at hscheme
      · cases hscheme
        rw [hcs] at h
        exact fun hc => h (List.mem_append_right _ (List.mem_cons_of_mem _ hc))
      · cases hscheme
    · cases hscheme
  · cases hscheme

/-- A query begins with a question mark. -/
theorem splitEnds_query {cs : List Char} (h : '?' ∉ cs) : (splitEnds cs).2.1 = none := by
  have hbefore : ∀ before : List Char, before ⊆ cs → splitFirst? '?' before = none :=
    fun before hsub => splitFirst?_eq_none_iff.mpr fun hmark => h (hsub hmark)
  rw [splitEnds]
  cases hcut : splitFirst? '#' cs with
  | none => simp [hbefore cs (List.Subset.refl _)]
  | some cut =>
    obtain ⟨rfl, _⟩ := splitFirst?_eq_some hcut
    simp [hbefore cut.1 (List.subset_append_left _ _)]

/-- An address that is written without a question mark has no fields. -/
theorem fields_eq_nil_of_read {text : String} (hread : read text = .ok url)
    (h : '?' ∉ text.toList) : url.fields = [] := by
  have hquery : url.query? = none := by
    unfold read at hread
    split at hread
    · cases hread
    · next scheme rest hscheme =>
      have hnone := splitEnds_query (notMem_of_scheme? (notMem_cleaned h) hscheme)
      dsimp only at hread
      split at hread
      · cases hread
        simp [hnone]
      · cases hread
      · cases hread
  rw [fields, hquery]
  rfl

end MeshControl.Http.Url
