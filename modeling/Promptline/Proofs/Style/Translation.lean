import Mathlib.Data.List.Induction
import Promptline.Proofs.Style.Spelling
import Promptline.Proofs.Text.Words

/-! The styles of a prompt and of a console, read back.  Both give the attributes of a set in the order
of its words, but for `dim`, which a prompt does not show; so the last colour on a layer is the same in
both. -/

namespace Promptline.Style

open Promptline.Markup Promptline.Text

/-! ### Readers -/

/-- The words for flags, in styles of both kinds. -/
def flagWords : List (String × Flag) :=
  [("bold", .bold), ("dim", .dim), ("italic", .italic), ("underline", .underlined),
   ("blink", .blink), ("reverse", .inverse)]

def readFlag? (w : List Char) : Option Attribute :=
  (flagWords.lookup (String.ofList w)).map .flag

/-- Reads a colour, with `bright` before it if it is a bright one. -/
def readColour? (bright : String) (layer : Layer) (w : List Char) : Option Attribute :=
  match w.dropPrefix? bright.toList with
  | some r => (Hue.ofName? r).map fun hue => .colour ⟨layer, true, hue⟩
  | none => (Hue.ofName? w).map fun hue => .colour ⟨layer, false, hue⟩

/-- Reads a word of a prompt style: a flag, or a colour after its layer. -/
def readPromptWord? (w : List Char) : Option Attribute :=
  match w with
  | 'f' :: 'g' :: ':' :: 'a' :: 'n' :: 's' :: 'i' :: r => readColour? "bright" .foreground r
  | 'b' :: 'g' :: ':' :: 'a' :: 'n' :: 's' :: 'i' :: r => readColour? "bright" .background r
  | w => readFlag? w

/-- Reads a prompt style, every word of which must mean something. -/
def readPrompt? (style : String) : Option (List Attribute) :=
  (words style.toList).mapM readPromptWord?

/-- Reads the words of a console style: a flag, a colour, or `on` before the colour of the background. -/
def readConsoleWords? : List (List Char) → Option (List Attribute)
  | [] => some []
  | ['o', 'n'] :: w :: ws => do
    return (← readColour? "bright_" .background w) :: (← readConsoleWords? ws)
  | w :: ws => do
    return (← (readFlag? w).or (readColour? "bright_" .foreground w)) :: (← readConsoleWords? ws)

def readConsole? (style : String) : Option (List Attribute) :=
  readConsoleWords? (words style.toList)

variable {a : Attributes} {x : Attribute} {w : String}

/-! ### What is written is read -/

theorem words_promptWord {s : String} (h : x.promptWord? = some s) :
    words s.toList = [s.toList] ∧ readPromptWord? s.toList = some x := by
  cases x with
  | flag f => cases f <;> cases h <;> decide +kernel
  | colour c =>
    obtain ⟨layer, bright, hue⟩ := c
    cases h
    cases layer <;> cases bright <;> cases hue <;> decide +kernel

theorem promptWord?_eq_none_iff : x.promptWord? = none ↔ x = .flag .dim := by
  cases x with
  | flag f => cases f <;> simp [Attribute.promptWord?, Flag.promptWord?]
  | colour c => simp [Attribute.promptWord?]

theorem words_promptStyle (a : Attributes) :
    words a.promptStyle.toList =
      (a.meanings.filterMap Attribute.promptWord?).map String.toList := by
  rw [Attributes.promptStyle, words_intercalate, ← List.flatMap_singleton' (List.map _ _),
    List.flatMap_map]
  refine List.flatMap_congr fun s hs => ?_
  obtain ⟨x, -, hx⟩ := List.mem_filterMap.mp hs
  exact (words_promptWord hx).1

theorem readPrompt?_promptStyle (a : Attributes) :
    readPrompt? a.promptStyle = some (a.meanings.filter (· ≠ .flag .dim)) := by
  rw [readPrompt?, words_promptStyle]
  induction a.meanings with
  | nil => rfl
  | cons x xs ih =>
    cases hx : x.promptWord? with
    | none =>
      rw [List.filterMap_cons_none hx, ih, promptWord?_eq_none_iff.mp hx]
      simp
    | some s =>
      have shown : x ≠ .flag .dim := fun dim => by
        rw [promptWord?_eq_none_iff.mpr dim] at hx
        cases hx
      rw [List.filterMap_cons_some hx, List.map_cons, List.mapM_cons, (words_promptWord hx).2, ih]
      simp [shown]

/-- The words that an attribute adds to a console style. -/
def Attribute.consolePhrase : Attribute → List String
  | .flag f => [f.consoleWord]
  | .colour ⟨.foreground, bright, hue⟩ => [(Colour.mk .foreground bright hue).nameWith "_"]
  | .colour ⟨.background, bright, hue⟩ => ["on", (Colour.mk .background bright hue).nameWith "_"]

theorem words_consoleWords (x : Attribute) :
    words x.consoleWords.toList = x.consolePhrase.map String.toList := by
  cases x with
  | flag f => cases f <;> decide +kernel
  | colour c =>
    obtain ⟨layer, bright, hue⟩ := c
    cases layer <;> cases bright <;> cases hue <;> decide +kernel

theorem words_consoleStyle (a : Attributes) :
    words a.consoleStyle.toList = (a.meanings.flatMap Attribute.consolePhrase).map String.toList := by
  rw [Attributes.consoleStyle, words_intercalate, List.flatMap_map, List.map_flatMap]
  exact List.flatMap_congr fun x _ => words_consoleWords x

theorem readConsoleWords?_cons {w : List Char} (ws : List (List Char)) (h : w ≠ ['o', 'n']) :
    readConsoleWords? (w :: ws) =
      ((readFlag? w).or (readColour? "bright_" .foreground w)).bind fun x =>
        (readConsoleWords? ws).map (x :: ·) := by
  rw [readConsoleWords?]
  · cases (readFlag? w).or (readColour? "bright_" .foreground w) with
    | none => rfl
    | some x => cases readConsoleWords? ws <;> rfl
  · rintro w' ws' rfl
    exact absurd rfl h

theorem readConsoleWords?_append (x : Attribute) (ws : List (List Char)) :
    readConsoleWords? (x.consolePhrase.map String.toList ++ ws) =
      (readConsoleWords? ws).map (x :: ·) := by
  cases x with
  | flag f =>
    have own : f.consoleWord.toList ≠ ['o', 'n'] ∧
        readFlag? f.consoleWord.toList = some (.flag f) := by
      cases f <;> decide +kernel
    rw [Attribute.consolePhrase, List.map_singleton, List.singleton_append,
      readConsoleWords?_cons ws own.1, own.2]
    rfl
  | colour c =>
    obtain ⟨layer, bright, hue⟩ := c
    cases layer with
    | foreground =>
      have own : let w := ((Colour.mk .foreground bright hue).nameWith "_").toList
          w ≠ ['o', 'n'] ∧ (readFlag? w).or (readColour? "bright_" .foreground w) =
            some (.colour ⟨.foreground, bright, hue⟩) := by
        cases bright <;> cases hue <;> decide +kernel
      rw [Attribute.consolePhrase, List.map_singleton, List.singleton_append,
        readConsoleWords?_cons ws own.1, own.2]
      rfl
    | background =>
      have own : readColour? "bright_" .background
          ((Colour.mk .background bright hue).nameWith "_").toList =
            some (.colour ⟨.background, bright, hue⟩) := by
        cases bright <;> cases hue <;> decide +kernel
      rw [Attribute.consolePhrase, List.map_cons, List.map_singleton, List.cons_append,
        List.singleton_append, show "on".toList = ['o', 'n'] from rfl, readConsoleWords?, own]
      cases readConsoleWords? ws <;> rfl

theorem readConsole?_consoleStyle (a : Attributes) :
    readConsole? a.consoleStyle = some a.meanings := by
  rw [readConsole?, words_consoleStyle]
  induction a.meanings with
  | nil => rfl
  | cons x xs ih =>
    rw [List.flatMap_cons, List.map_append, readConsoleWords?_append, ih]
    rfl

/-! ### What a word adds -/

theorem consoleStyle_insert_ne_iff (h : w ∉ a.words) :
    (a.insert w).consoleStyle ≠ a.consoleStyle ↔ ∃ x, Spells w x := by
  obtain ⟨l, r, hmeanings, hinsert⟩ := Attributes.meanings_insert h
  simp only [← Attribute.ofWord?_eq_some_iff, ← Option.isSome_iff_exists]
  cases hw : Attribute.ofWord? w with
  | none =>
    rw [hw, Option.toList_none, List.append_nil, ← hmeanings] at hinsert
    simp [Attributes.consoleStyle, hinsert]
  | some x =>
    refine iff_of_true (fun same => ?_) rfl
    have read := readConsole?_consoleStyle (a.insert w)
    rw [same, readConsole?_consoleStyle, hinsert, hmeanings, hw] at read
    simpa using congrArg List.length (Option.some.inj read)

theorem promptStyle_insert_ne_iff (h : w ∉ a.words) :
    (a.insert w).promptStyle ≠ a.promptStyle ↔ w ≠ "dim" ∧ ∃ x, Spells w x := by
  obtain ⟨l, r, hmeanings, hinsert⟩ := Attributes.meanings_insert h
  simp only [← Attribute.ofWord?_eq_some_iff, ← Option.isSome_iff_exists]
  by_cases hdim : w = "dim"
  · have hw : Attribute.ofWord? w = some (.flag .dim) := by
      rw [hdim]
      rfl
    have same : (a.insert w).promptStyle = a.promptStyle := by
      rw [hw] at hinsert
      simp [Attributes.promptStyle, hinsert, hmeanings, promptWord?_eq_none_iff.mpr]
    exact iff_of_false (fun h => h same) fun h => h.1 hdim
  · cases hw : Attribute.ofWord? w with
    | none =>
      rw [hw, Option.toList_none, List.append_nil, ← hmeanings] at hinsert
      simp [Attributes.promptStyle, hinsert]
    | some x =>
      refine iff_of_true (fun same => ?_) ⟨hdim, rfl⟩
      have shown : x ≠ .flag .dim := by
        rintro rfl
        cases Attribute.ofWord?_eq_some_iff.mp hw
        exact hdim rfl
      have read := readPrompt?_promptStyle (a.insert w)
      rw [same, readPrompt?_promptStyle, hinsert, hmeanings, hw] at read
      have lengths := congrArg List.length (Option.some.inj read)
      simp [shown] at lengths

/-! ### What the console makes of a style -/

def Flag.effect : Flag → Effect
  | .bold => .bold
  | .dim => .dim
  | .italic => .italic
  | .underlined => .underline
  | .blink => .blink
  | .inverse => .reverse

theorem Flag.effect_inj {f f' : Flag} : f.effect = f'.effect ↔ f = f' := by
  cases f <;> cases f' <;> decide

/-- The style with an attribute added.  A colour takes the place of the one before it on its layer. -/
def Attribute.addTo (s : StyleName) : Attribute → StyleName
  | .flag f => { s with effects := (f.effect, true) :: s.effects }
  | .colour ⟨.foreground, bright, hue⟩ =>
    { s with colour := some ((Colour.mk .foreground bright hue).nameWith "_") }
  | .colour ⟨.background, bright, hue⟩ =>
    { s with background := some ((Colour.mk .background bright hue).nameWith "_") }

theorem ofWordsAfter_word {s s' : StyleName} (ws : List String) (hlow : lowered w = w)
    (hword : ["on", "not", "link"].contains w = false) (hadd : s.add w = .ok (some s')) :
    s.ofWordsAfter (w :: ws) = s'.ofWordsAfter ws := by
  rw [StyleName.ofWordsAfter.eq_def]
  simp only [hlow, hword, Bool.false_eq_true, if_false, hadd]
  rfl

theorem ofWordsAfter_on {s s' : StyleName} (ws : List String)
    (hadd : s.addPair "on" w = .ok (some s')) :
    s.ofWordsAfter ("on" :: w :: ws) = s'.ofWordsAfter ws := by
  have hlow : lowered "on" = "on" := by decide +kernel
  have hword : ["on", "not", "link"].contains "on" = true := by decide
  rw [StyleName.ofWordsAfter.eq_def]
  simp only [hlow, hword, if_true, hadd]
  rfl

theorem isColour_nameWith (c : Colour) :
    lowered (c.nameWith "_") = c.nameWith "_" ∧ Effect.ofWord? (c.nameWith "_") = none ∧
      ["on", "not", "link"].contains (c.nameWith "_") = false ∧
        isColour (c.nameWith "_") = .ok true := by
  obtain ⟨layer, bright, hue⟩ := c
  have own : let w := (Colour.mk .foreground bright hue).nameWith "_"
      lowered w = w ∧ Effect.ofWord? w = none ∧ ["on", "not", "link"].contains w = false ∧
        isColourName w = true := by
    cases bright <;> cases hue <;> decide +kernel
  obtain ⟨hlow, heffect, hword, hname⟩ := own
  refine ⟨hlow, heffect, hword, ?_⟩
  rw [isColour]
  exact if_pos hname

theorem ofWordsAfter_append (x : Attribute) (s : StyleName) (ws : List String) :
    s.ofWordsAfter (x.consolePhrase ++ ws) = (x.addTo s).ofWordsAfter ws := by
  cases x with
  | flag f =>
    have own : lowered f.consoleWord = f.consoleWord ∧
        ["on", "not", "link"].contains f.consoleWord = false ∧
          Effect.ofWord? f.consoleWord = some f.effect := by
      cases f <;> decide +kernel
    obtain ⟨hlow, hword, heffect⟩ := own
    refine ofWordsAfter_word ws hlow hword ?_
    rw [StyleName.add, heffect]
    rfl
  | colour c =>
    obtain ⟨hlow, heffect, hword, hcolour⟩ := isColour_nameWith c
    obtain ⟨layer, bright, hue⟩ := c
    cases layer with
    | foreground =>
      refine ofWordsAfter_word ws hlow hword ?_
      rw [StyleName.add, heffect]
      simp only [hcolour]
      rfl
    | background =>
      refine ofWordsAfter_on ws ?_
      rw [StyleName.addPair]
      simp only [hlow, hcolour]
      rfl

theorem read_consoleStyle (a : Attributes) :
    StyleName.read a.consoleStyle.toList = .ok (some (a.meanings.foldl Attribute.addTo {})) := by
  have own : (String.ofList ∘ String.toList) = id := funext fun s => String.ofList_toList
  rw [StyleName.read, words_consoleStyle, List.map_map, own, List.map_id]
  -- Each attribute is added to the style that the ones before it have made.
  generalize ({} : StyleName) = s
  induction a.meanings generalizing s with
  | nil => rfl
  | cons x xs ih => rw [List.flatMap_cons, ofWordsAfter_append, ih, List.foldl_cons]

/-- The colour, if the attribute is one on `layer`. -/
def Attribute.colourOn? (layer : Layer) : Attribute → Option Colour
  | .flag _ => none
  | .colour c => if c.layer = layer then some c else none

theorem filterMap_colourOn? (layer : Layer) (xs : List Attribute) :
    (xs.filter (· ≠ .flag .dim)).filterMap (·.colourOn? layer) =
      xs.filterMap (·.colourOn? layer) := by
  rw [List.filterMap_filter]
  refine List.filterMap_congr fun x _ => ?_
  split
  · rfl
  · next hx =>
    have dim : x = .flag .dim := by simpa using hx
    rw [dim]
    rfl

/-- The name of the last colour on a layer. -/
def lastColour? (layer : Layer) (xs : List Attribute) : Option String :=
  ((xs.filterMap (·.colourOn? layer)).getLast?).map (·.nameWith "_")

/-- The last colour on each layer counts, and every flag. -/
theorem foldl_addTo (xs : List Attribute) :
    let s := xs.foldl Attribute.addTo {}
    s.colour = lastColour? .foreground xs ∧ s.background = lastColour? .background xs ∧
      s.link = none ∧
      ∀ f : Flag, s.effects.lookup f.effect = if .flag f ∈ xs then some true else none := by
  induction xs using List.reverseRecOn with
  | nil => simp [lastColour?]
  | append_singleton xs x ih =>
    obtain ⟨hcolour, hbackground, hlink, heffects⟩ := ih
    simp only [lastColour?] at hcolour hbackground
    simp only [lastColour?, List.foldl_concat, List.filterMap_append, List.mem_append,
      List.mem_singleton]
    cases x with
    | flag f =>
      refine ⟨by simpa [Attribute.addTo, Attribute.colourOn?] using hcolour,
        by simpa [Attribute.addTo, Attribute.colourOn?] using hbackground, hlink, fun g => ?_⟩
      simp only [Attribute.addTo, List.lookup_cons, heffects]
      by_cases hg : g = f
      · simp [hg]
      · have other : (g.effect == f.effect) = false := by simpa [Flag.effect_inj] using hg
        simp [other, hg]
    | colour c =>
      obtain ⟨layer, bright, hue⟩ := c
      cases layer with
      | foreground =>
        refine ⟨by simp [Attribute.addTo, Attribute.colourOn?],
          by simpa [Attribute.addTo, Attribute.colourOn?] using hbackground, hlink, fun g => ?_⟩
        simpa [Attribute.addTo] using heffects g
      | background =>
        refine ⟨by simpa [Attribute.addTo, Attribute.colourOn?] using hcolour,
          by simp [Attribute.addTo, Attribute.colourOn?], hlink, fun g => ?_⟩
        simpa [Attribute.addTo] using heffects g

/-- Whatever words a set holds: both styles can be read, word for word, and give the attributes that
the words spell, but for `dim` in a prompt.  A word that is new in the set changes the console style if
a text can be made of it, and the prompt style too unless it is `dim`.  On each layer both styles have
the same colours in the same order, and the console shows the last of them, with all flags. -/
theorem translated_attributes (a : Attributes) :
    ∃ (prompt console : List Attribute) (style : StyleName),
      readPrompt? a.promptStyle = some prompt ∧ readConsole? a.consoleStyle = some console ∧
      (∀ x, x ∈ console ↔ ∃ w ∈ a.words, Spells w x) ∧
      (∀ x, x ∈ prompt ↔ x ≠ .flag .dim ∧ ∃ w ∈ a.words, Spells w x) ∧
      (∀ text w, w ∉ a.words →
        ((a.insert w).consoleStyle ≠ a.consoleStyle ↔ ∃ t, StyledText.make text [w] = .ok t) ∧
        ((a.insert w).promptStyle ≠ a.promptStyle ↔
          w ≠ "dim" ∧ ∃ t, StyledText.make text [w] = .ok t)) ∧
      (∀ text ws, (∃ t, StyledText.make text ws = .ok t) ↔ ∀ w ∈ ws, ∃ x, Spells w x) ∧
      (∀ (w : String) c, Colour.ofWord? w.toList = some c ↔ Spells w (.colour c)) ∧
      (∀ layer, prompt.filterMap (·.colourOn? layer) = console.filterMap (·.colourOn? layer)) ∧
      StyleName.read a.consoleStyle.toList = .ok (some style) ∧
      style.colour = lastColour? .foreground prompt ∧
      style.background = lastColour? .background prompt ∧ style.link = none ∧
      ∀ f : Flag, style.effects.lookup f.effect = if .flag f ∈ console then some true else none := by
  have colours (layer : Layer) := filterMap_colourOn? layer a.meanings
  obtain ⟨hcolour, hbackground, hlink, heffects⟩ := foldl_addTo a.meanings
  refine ⟨_, a.meanings, _, readPrompt?_promptStyle a, readConsole?_consoleStyle a,
    fun x => Attributes.mem_meanings, fun x => ?_, fun text w h => ⟨?_, ?_⟩,
    StyledText.make_isOk_iff, fun w c => Colour.ofWord?_eq_some_iff, colours, read_consoleStyle a,
    ?_, ?_, hlink, heffects⟩
  · rw [List.mem_filter, Attributes.mem_meanings, decide_eq_true_iff, and_comm]
  · rw [consoleStyle_insert_ne_iff h, StyledText.make_isOk_iff, List.forall_mem_singleton]
  · rw [promptStyle_insert_ne_iff h, StyledText.make_isOk_iff, List.forall_mem_singleton]
  · rw [hcolour, lastColour?, lastColour?, colours]
  · rw [hbackground, lastColour?, lastColour?, colours]

/-- Two words for one colour, a colour on each layer, and words without a meaning. -/
def mixed : Attributes := .ofList ["red", "bg-bright-blue", "fg-red", "fg-blue", "fg-", "sparkly"]

theorem translated_mixed :
    (mixed.insert "dim").consoleStyle ≠ mixed.consoleStyle ∧
      (mixed.insert "dim").promptStyle = mixed.promptStyle ∧
      (mixed.insert "fg-bg-red").consoleStyle = mixed.consoleStyle ∧
      ∃ style, StyleName.read mixed.consoleStyle.toList = .ok (some style) ∧
        style.colour = some "red" := by
  obtain ⟨prompt, console, style, hprompt, -, -, -, adds, -, -, -, hread, hcolour, -⟩ :=
    translated_attributes mixed
  have dim := adds "" "dim" (by decide +kernel)
  have doubled := adds "" "fg-bg-red" (by decide +kernel)
  refine ⟨dim.1.mpr ⟨_, rfl⟩, by_contra fun h => (dim.2.mp h).1 rfl, by_contra fun h => ?_,
    style, hread, ?_⟩
  · obtain ⟨t, ht⟩ := doubled.1.mp h
    have refused : StyledText.make "" ["fg-bg-red"] = .error ⟨"fg-bg-red"⟩ := by rfl
    cases refused.symm.trans ht
  · have shown : readPrompt? mixed.promptStyle =
        some [.colour ⟨.background, true, .blue⟩, .colour ⟨.foreground, false, .blue⟩,
          .colour ⟨.foreground, false, .red⟩, .colour ⟨.foreground, false, .red⟩] := by
      decide +kernel
    cases shown.symm.trans hprompt
    exact hcolour

end Promptline.Style
