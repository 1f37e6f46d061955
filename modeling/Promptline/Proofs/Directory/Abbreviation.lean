import Promptline.Directory.Change
import Promptline.Proofs.Directory.Normal
import Promptline.Proofs.Text.Words

/-! The abbreviated path of the prompt is a path for `cd`: it leads to the directory that it is the
path of, so no two directories share one. -/

namespace Promptline.Directory

open Promptline.Text Promptline.Style

/-- The last character of `path` is not blank. -/
def EndsVisibly (path : List Char) : Prop := ∀ c ∈ path.getLast?, isBlank c = false

variable {home path rest : List Char}

/-! ### The home directory -/

theorem expandHome_tilde (h : rest = [] ∨ rest.take 1 = ['/']) :
    expandHome home ('~' :: rest) =
      if homeStem home ++ rest = [] then ['/'] else homeStem home ++ rest := by
  have hif : (decide (rest = []) || decide (rest.take 1 = ['/'])) = true := by simpa using h
  rw [expandHome, if_pos hif]

/-- The home directory is the stem of its name, or the root if nothing is left of that. -/
theorem expandHome_home (home : List Char) :
    expandHome home ['~'] = if homeStem home = [] then ['/'] else homeStem home := by
  rw [expandHome_tilde (.inl rfl), List.append_nil]

/-! ### Abbreviated paths -/

/-- An abbreviated path is the path, or `~` and what follows the home directory in it. -/
theorem shorten_cases (home path : List Char) :
    shorten home path = path ∨
      ∃ rest, (rest = [] ∨ rest.take 1 = ['/']) ∧ path = home ++ rest ∧
        shorten home path = '~' :: rest := by
  unfold shorten
  split
  · next h =>
    obtain ⟨-, rfl | below⟩ := h
    · exact .inr ⟨[], .inl rfl, (List.append_nil _).symm, by rw [List.drop_length]⟩
    · obtain ⟨r, rfl⟩ := List.isPrefixOf_iff_prefix.mp below
      refine .inr ⟨'/' :: r, .inr rfl, by rw [List.append_assoc, List.singleton_append], ?_⟩
      rw [List.append_assoc, List.drop_left, List.singleton_append]
  · exact .inl rfl

/-- Expanding an abbreviated path gives the path. -/
theorem expandHome_shorten (home : List Char) (hpath : IsAbsolute path) :
    expandHome home (shorten (expandHome home ['~']) path) = path := by
  obtain ⟨parts, hparts, rfl⟩ := hpath
  obtain whole | ⟨rest, hrest, hpath, hshown⟩ :=
    shorten_cases (expandHome home ['~']) (absolute parts)
  · rw [whole]
    rfl
  · rw [hshown, expandHome_tilde hrest]
    rw [expandHome_home] at hpath
    by_cases hstem : homeStem home = []
    · -- The home directory is the root, below which no path starts with two slashes.
      rw [if_pos hstem, List.singleton_append] at hpath
      have alone : rest = [] := by
        obtain rfl | hslash := hrest
        · rfl
        · cases rest with
          | nil => rfl
          | cons d r =>
            obtain rfl : d = '/' := by simpa using hslash
            obtain hroot | ⟨c, r', hc, hsecond⟩ := absolute_eq hparts
            · rw [hroot] at hpath
              cases hpath
            · rw [hsecond] at hpath
              exact absurd (List.cons.inj (List.cons.inj hpath).2).1 hc
      rw [alone, hstem, if_pos (List.append_nil _), hpath, alone]
    · rw [if_neg hstem] at hpath
      rw [if_neg (by simp [hstem]), hpath]

/-- An abbreviated path is shown with no blank at either end. -/
theorem trim_shorten (home : List Char) (hpath : IsAbsolute path) (hend : EndsVisibly path) :
    trim (shorten home path) = shorten home path := by
  have hslash : isBlank '/' = false := by decide
  have htilde : isBlank '~' = false := by decide
  obtain ⟨parts, -, rfl⟩ := hpath
  obtain whole | ⟨rest, -, hpath, hshown⟩ := shorten_cases home (absolute parts)
  · rw [whole]
    exact trim_eq_self (by simpa [absolute] using hslash) hend
  · rw [hshown]
    refine trim_eq_self (by simpa using htilde) ?_
    cases rest with
    | nil => simpa using htilde
    | cons d r =>
      rw [EndsVisibly, hpath, List.getLast?_append_cons] at hend
      rwa [List.getLast?_cons_cons]

theorem shorten_ne_nil (home : List Char) (hpath : IsAbsolute path) : shorten home path ≠ [] := by
  obtain ⟨parts, -, rfl⟩ := hpath
  obtain whole | ⟨rest, -, -, hshown⟩ := shorten_cases home (absolute parts)
  · rw [whole]
    exact List.cons_ne_nil _ _
  · rw [hshown]
    exact List.cons_ne_nil _ _

/-! ### Changing to the directory that is shown -/

/-- `cd` with the path of the prompt asks for the directory itself. -/
theorem target_shortPath (home : String) {cwd : String} (hcwd : IsAbsolute cwd.toList)
    (hend : EndsVisibly cwd.toList) : target home (shortPath (homeDirectory home) cwd) = cwd := by
  rw [target, shortPath, homeDirectory, String.toList_ofList, String.toList_ofList,
    trim_shorten _ hcwd hend, if_neg (shorten_ne_nil _ hcwd), expandHome_shorten _ hcwd,
    String.ofList_toList]

/-- A directory resolves to itself. -/
theorem resolve_self {cwd : String} (base : String) (hcwd : IsAbsolute cwd.toList) :
    resolve base cwd = cwd := by
  have joined (b : List Char) : joinPath b cwd.toList = cwd.toList := by
    obtain ⟨parts, -, hpath⟩ := hcwd
    rw [joinPath, hpath]
    rfl
  rw [resolve, joined, (isAbsolute_iff.mp hcwd).2, String.ofList_toList]

/-- The directory that the prompt shows is one that `cd` stays in, whatever the home directory is
called.  So directories that are shown the same way are the same. -/
theorem change_shortPath (home : String) (barred : Barred) {cwd : String}
    (hcwd : IsAbsolute cwd.toList) (hend : EndsVisibly cwd.toList)
    (henter : barred.lookup cwd = none) :
    let shown := shortPath (homeDirectory home) cwd
    prompt home (some cwd) = .styled shown ["bold", "blue"] ++ .plain "> " ∧
      change barred home (some cwd) shown = (none, some cwd) ∧
      ∀ other : String, IsAbsolute other.toList → EndsVisibly other.toList →
        (prompt home (some other)).toText = (prompt home (some cwd)).toText → other = cwd := by
  intro shown
  have hprompt {path : String} (hpath : IsAbsolute path.toList) :
      prompt home (some path) =
        .styled (shortPath (homeDirectory home) path) ["bold", "blue"] ++ .plain "> " := by
    obtain ⟨parts, -, hpath⟩ := hpath
    have hne : path ≠ "" := by
      rintro rfl
      cases hpath
    rw [prompt]
    exact hne
  have htext (a : String) : (StyledText.styled a ["bold", "blue"] ++ .plain "> ").toText =
      a ++ "> " := by
    show "" ++ a ++ "> " = a ++ "> "
    rw [String.empty_append]
  refine ⟨hprompt hcwd, ?_, fun other hother hend' same => ?_⟩
  · rw [change, target_shortPath home hcwd hend]
    simp only [henter, Option.getD_some, resolve_self cwd hcwd]
  · rw [hprompt hother, hprompt hcwd, htext, htext, String.append_left_inj] at same
    rw [← target_shortPath home hother hend', same, target_shortPath home hcwd hend]

/-- With slashes at the end of the home directory, and a blank and a tilde below it. -/
theorem change_shortPath_tilde :
    shortPath (homeDirectory "/home/me//") "/home/me/ ~" = "~/ ~" ∧
      change [("/root", .bare "Permission denied")] "/home/me//" (some "/home/me/ ~") "~/ ~" =
        (none, some "/home/me/ ~") := by
  have hcwd : IsAbsolute "/home/me/ ~".toList :=
    isAbsolute_iff.mpr ⟨by decide +kernel, by decide +kernel⟩
  have hend : EndsVisibly "/home/me/ ~".toList := by
    rintro c ⟨⟩
    rfl
  have hshorten : shorten (expandHome "/home/me//".toList ['~']) "/home/me/ ~".toList =
      "~/ ~".toList := by decide +kernel
  have hshown : shortPath (homeDirectory "/home/me//") "/home/me/ ~" = "~/ ~" := by
    rw [shortPath, homeDirectory, String.toList_ofList, hshorten, String.ofList_toList]
  have stays := change_shortPath "/home/me//" [("/root", .bare "Permission denied")] hcwd hend rfl
  exact ⟨hshown, hshown ▸ stays.2.1⟩

end Promptline.Directory
