import HttpDoctest.Proofs.Request.CarriageReturns
import HttpDoctest.Proofs.Table

set_option autoImplicit false

/-! # Headers without a value

A header whose line ends with the colon has no value, and the rule for headers passes it over.
With a carriage return in front of the line feed it has one, which is cut off as a blank only
later. So carriage returns make headers of those with an empty value as well, and they stay in
names that go over a line end (`headersOf_crlf`). A run has the same headers with and without
carriage returns exactly if neither makes a difference (`headersOf_crlf_eq_iff`).
-/

namespace HttpDoctest.Request

/-- What stands in front of the first `c` and what stands behind it, if there is one. -/
def cutAt? (c : Char) (text : List Char) : Option (List Char × List Char) :=
  match text.dropWhile (· != c) with
  | [] => none
  | _ :: behind => some (text.takeWhile (· != c), behind)

theorem cutAt?_append {c : Char} {front : List Char} (h : c ∉ front) (behind : List Char) :
    cutAt? c (front ++ c :: behind) = some (front, behind) := by
  rw [cutAt?, dropWhile_ne_append h, takeWhile_ne_append h]

theorem cutAt?_eq_none {c : Char} {text : List Char} (h : c ∉ text) : cutAt? c text = none := by
  rw [cutAt?, List.dropWhile_eq_nil_iff.2 (forall_bne_of_not_mem h)]

theorem length_of_cutAt? {c : Char} {text front behind : List Char}
    (h : cutAt? c text = some (front, behind)) : behind.length < text.length := by
  unfold cutAt? at h
  split at h
  · cases h
  · next heq =>
    cases h
    have hle := (List.dropWhile_sublist (l := text) (· != c)).length_le
    rw [heq, List.length_cons] at hle
    omega

/-- The name and value pairs of a header run if a value may be empty. -/
def fullPairs (run : List Char) : List (List Char × List Char) :=
  match h : cutAt? ':' run with
  | none => []
  | some (name, after) =>
      have := length_of_cutAt? h
      match h' : cutAt? '\n' after with
      | none => fullPairs after
      | some (value, rest) =>
          have := length_of_cutAt? h'
          if name.isEmpty then fullPairs after else (name, value) :: fullPairs rest
termination_by run.length

/-- The headers of a run if a value may be empty. -/
def fullHeadersOf (run : List Char) : Headers :=
  Table.ofList ((fullPairs run).map fun (name, value) =>
    (String.ofList (Text.trim name), String.ofList (Text.trim value)))

/-- A header run whose headers stay the same with carriage returns: every name stands on one line,
and there are no other headers if a value may be empty. -/
structure KeepsHeaders (run : List Char) : Prop where
  names : ∀ pair ∈ fullPairs run, '\n' ∉ Text.trim pair.1
  values : headersOf run = fullHeadersOf run

/-! ## Pairs -/

theorem fullPairs_of_not_mem {run : List Char} (h : ':' ∉ run) : fullPairs run = [] := by
  rw [fullPairs]
  split
  · rfl
  · next heq => cases (cutAt?_eq_none h).symm.trans heq

section Colon

variable {name : List Char} (hcolon : ':' ∉ name)
include hcolon

theorem fullPairs_line {value : List Char} (hname : name ≠ []) (hline : '\n' ∉ value)
    (rest : List Char) :
    fullPairs (name ++ ':' :: (value ++ '\n' :: rest)) = (name, value) :: fullPairs rest := by
  rw [fullPairs]
  split
  · next heq => cases (cutAt?_append hcolon _).symm.trans heq
  · next heq =>
    cases (cutAt?_append hcolon _).symm.trans heq
    dsimp only
    split
    · next heq => cases (cutAt?_append hline rest).symm.trans heq
    · next heq =>
      cases (cutAt?_append hline rest).symm.trans heq
      rw [if_neg (mt List.isEmpty_iff.1 hname)]

/-- A colon without a name or without a line end behind it is passed over. -/
theorem fullPairs_pass {after : List Char} (h : name = [] ∨ '\n' ∉ after) :
    fullPairs (name ++ ':' :: after) = fullPairs after := by
  rw [fullPairs]
  split
  · next heq => cases (cutAt?_append hcolon after).symm.trans heq
  · next heq =>
    cases (cutAt?_append hcolon after).symm.trans heq
    dsimp only
    split
    · rfl
    · next heq =>
      rcases h with rfl | hline
      · rfl
      · cases (cutAt?_eq_none hline).symm.trans heq

/-- A colon that has no name, no value or no line end behind it is passed over. -/
theorem headerPairs_pass {after : List Char}
    (h : name = [] ∨ '\n' ∉ after ∨ ∃ rest, after = '\n' :: rest) :
    headerPairs (name ++ ':' :: after) = headerPairs after := by
  rw [headerPairs]
  split
  · next heq =>
    rw [dropWhile_ne_append hcolon] at heq
    cases heq
  · next c after' heq =>
    rw [dropWhile_ne_append hcolon] at heq
    cases heq
    have hkey := takeWhile_ne_append hcolon after
    dsimp only
    split
    · next heq₁ heq₂ heq₃ =>
      rcases h with rfl | hline | ⟨rest, rfl⟩
      · cases hkey.symm.trans heq₁
      · rw [List.dropWhile_eq_nil_iff.2 (forall_bne_of_not_mem hline)] at heq₂
        cases heq₂
      · cases heq₃
    · rfl

end Colon

/-- How a run goes on up to its first header. -/
theorem colon_cases (run : List Char) :
    ':' ∉ run ∨ ∃ name after, run = name ++ ':' :: after ∧ ':' ∉ name ∧
      ((name = [] ∨ '\n' ∉ after) ∨
        name ≠ [] ∧ ∃ value rest, after = value ++ '\n' :: rest ∧ '\n' ∉ value) := by
  by_cases hmem : ':' ∈ run
  · obtain ⟨name, after, rfl, hcolon⟩ := List.eq_append_cons_of_mem hmem
    refine .inr ⟨name, after, rfl, hcolon, ?_⟩
    by_cases hname : name = []
    · exact .inl (.inl hname)
    by_cases hline : '\n' ∈ after
    · exact .inr ⟨hname, List.eq_append_cons_of_mem hline⟩
    · exact .inl (.inr hline)
  · exact .inl hmem

/-- Where no value is empty, none is passed over. -/
theorem headerPairs_eq_fullPairs {run : List Char} (h : ∀ pair ∈ fullPairs run, pair.2 ≠ []) :
    headerPairs run = fullPairs run := by
  induction hlength : run.length using Nat.strongRecOn generalizing run with
  | ind k ih =>
  obtain hnone | ⟨name, after, rfl, hcolon, hpass | ⟨hname, value, rest, rfl, hline⟩⟩ :=
    colon_cases run
  · rw [fullPairs_of_not_mem hnone, headerPairs_of_not_mem hnone]
  · rw [fullPairs_pass hcolon hpass] at h ⊢
    rw [headerPairs_pass hcolon (hpass.imp_right .inl)]
    refine ih after.length ?_ h rfl
    rw [← hlength, List.length_append, List.length_cons]
    omega
  · rw [fullPairs_line hcolon hname hline, List.forall_mem_cons] at h
    rw [fullPairs_line hcolon hname hline, headerPairs_line hname hcolon h.1 hline]
    refine congrArg _ (ih rest.length ?_ h.2 rfl)
    rw [← hlength]
    simp only [List.length_append, List.length_cons]
    omega

/-- With carriage returns each value has one at its end, so that none is empty. -/
theorem headerPairs_crlf (run : List Char) :
    headerPairs (crlf run) =
      (fullPairs run).map fun (name, value) => (crlf name, value ++ ['\r']) := by
  induction hlength : run.length using Nat.strongRecOn generalizing run with
  | ind k ih =>
  have hmem {text : List Char} : ':' ∉ text → ':' ∉ crlf text := mt (mem_crlf (by decide)).1
  obtain hnone | ⟨name, after, rfl, hcolon, hpass | ⟨hname, value, rest, rfl, hline⟩⟩ :=
    colon_cases run
  · rw [fullPairs_of_not_mem hnone, headerPairs_of_not_mem (hmem hnone)]
    rfl
  · have hpass' : crlf name = [] ∨ '\n' ∉ crlf after :=
      hpass.imp crlf_eq_nil_iff.2 (mt (mem_crlf (by decide)).1)
    rw [crlf_append, crlf_cons (by decide), headerPairs_pass (hmem hcolon) (hpass'.imp_right .inl),
      fullPairs_pass hcolon hpass]
    refine ih after.length ?_ after rfl
    rw [← hlength, List.length_append, List.length_cons]
    omega
  · have hvalue : '\n' ∉ value ++ ['\r'] := by
      rw [List.mem_append, not_or]
      exact ⟨hline, by decide⟩
    have hsplit : crlf (name ++ ':' :: (value ++ '\n' :: rest)) =
        crlf name ++ ':' :: ((value ++ ['\r']) ++ '\n' :: crlf rest) := by
      rw [crlf_append, crlf_cons (by decide), crlf_append, crlf_of_not_mem hline, crlf_lineFeed,
        List.append_assoc]
      rfl
    rw [hsplit, headerPairs_line (mt crlf_eq_nil_iff.1 hname) (hmem hcolon) (by simp) hvalue,
      fullPairs_line hcolon hname hline, List.map_cons]
    refine congrArg _ (ih rest.length ?_ rest rfl)
    rw [← hlength]
    simp only [List.length_append, List.length_cons]
    omega

/-- The characters of a name and of a value are some of their run. -/
theorem subset_of_mem_headerPairs {run : List Char} {pair : List Char × List Char}
    (h : pair ∈ headerPairs run) : pair.1 ⊆ run ∧ pair.2 ⊆ run := by
  have hbehind {p : Char → Bool} {text rest : List Char} {c : Char}
      (hdrop : text.dropWhile p = c :: rest) : rest ⊆ text := fun d hd =>
    (List.dropWhile_sublist p).subset (hdrop ▸ List.mem_cons_of_mem c hd)
  fun_induction headerPairs run with
  | case1 => cases h
  | case2 run _ after hcolon _ name _ _ _ rest _ _ hline hvalue _ _ ih =>
      rcases List.mem_cons.1 h with rfl | h
      · rw [← hvalue]
        have htake : after.takeWhile (· != '\n') ⊆ after := (List.takeWhile_sublist _).subset
        exact ⟨(List.takeWhile_sublist _).subset, fun d hd => hbehind hcolon (htake hd)⟩
      · have hrest : rest ⊆ run := fun d hd => hbehind hcolon (hbehind hline hd)
        exact ⟨fun d hd => hrest ((ih h).1 hd), fun d hd => hrest ((ih h).2 hd)⟩
  | case3 run _ after hcolon _ _ _ ih =>
      have hafter : after ⊆ run := hbehind hcolon
      exact ⟨fun d hd => hafter ((ih h).1 hd), fun d hd => hafter ((ih h).2 hd)⟩

/-! ## Headers -/

theorem headersOf_crlf (run : List Char) :
    headersOf (crlf run) = Table.ofList ((fullPairs run).map fun (name, value) =>
      (String.ofList (crlf (Text.trim name)), String.ofList (Text.trim value))) := by
  have hreturn : Text.Blank ['\r'] := by decide
  rw [headersOf, headerPairs_crlf, List.map_map]
  refine congrArg Table.ofList (List.map_congr_left ?_)
  rintro ⟨name, value⟩ -
  exact Prod.ext (congrArg String.ofList trim_crlf)
    (congrArg String.ofList (Text.trim_append hreturn value))

/-- No key of a run without carriage returns has one. -/
theorem return_not_mem_keys {run : List Char} (h : '\r' ∉ run) {key : String}
    (hkey : key ∈ (headersOf run).keys) : '\r' ∉ key.toList := by
  rw [headersOf, Table.mem_keys_ofList, List.map_map, List.mem_map] at hkey
  obtain ⟨pair, hpair, rfl⟩ := hkey
  intro hmem
  have htrim : '\r' ∈ Text.trim pair.1 := by
    rw [← String.toList_ofList (l := Text.trim pair.1)]
    exact hmem
  exact h ((subset_of_mem_headerPairs hpair).1 ((Text.trim_sublist pair.1).subset htrim))

theorem headersOf_crlf_eq_iff {run : List Char} (h : '\r' ∉ run) :
    headersOf (crlf run) = headersOf run ↔ KeepsHeaders run := by
  have hfull (hnames : ∀ pair ∈ fullPairs run, '\n' ∉ Text.trim pair.1) :
      headersOf (crlf run) = fullHeadersOf run := by
    rw [headersOf_crlf, fullHeadersOf]
    refine congrArg Table.ofList (List.map_congr_left ?_)
    rintro ⟨name, value⟩ hpair
    exact Prod.ext (congrArg String.ofList (crlf_of_not_mem (hnames _ hpair))) rfl
  constructor
  · intro heq
    have hnames : ∀ pair ∈ fullPairs run, '\n' ∉ Text.trim pair.1 := by
      intro pair hpair hmem
      -- the carriage return in the name would be one of the run as well
      have hkey : String.ofList (crlf (Text.trim pair.1)) ∈ (headersOf run).keys := by
        rw [← heq, headersOf_crlf, Table.mem_keys_ofList, List.map_map]
        exact List.mem_map_of_mem hpair
      refine return_not_mem_keys h hkey ?_
      rw [String.toList_ofList]
      exact return_mem_crlf hmem
    exact ⟨hnames, heq.symm.trans (hfull hnames)⟩
  · rintro ⟨hnames, hvalues⟩
    exact (hfull hnames).trans hvalues.symm

theorem colon_not_mem_of_blank {run : List Char} (h : Text.Blank run) : ':' ∉ run :=
  fun hmem => absurd (h _ hmem) (by decide)

theorem headersOf_of_blank {run : List Char} (h : Text.Blank run) : headersOf run = .empty := by
  rw [headersOf, headerPairs_of_not_mem (colon_not_mem_of_blank h)]
  rfl

theorem keepsHeaders_of_blank {run : List Char} (h : Text.Blank run) : KeepsHeaders run := by
  have hnone := fullPairs_of_not_mem (colon_not_mem_of_blank h)
  refine ⟨?_, ?_⟩
  · rw [hnone]
    exact List.forall_mem_nil _
  · rw [headersOf_of_blank h, fullHeadersOf, hnone]
    rfl

/-- Headers with names on one line and with values stay the same. -/
theorem keepsHeaders_of_values {run : List Char}
    (h : ∀ pair ∈ fullPairs run, '\n' ∉ Text.trim pair.1 ∧ pair.2 ≠ []) : KeepsHeaders run := by
  refine ⟨fun pair hpair => (h pair hpair).1, ?_⟩
  rw [headersOf, headerPairs_eq_fullPairs fun pair hpair => (h pair hpair).2]
  rfl

end HttpDoctest.Request
