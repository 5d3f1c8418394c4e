/-
# Proofs.Document.Outline -- the sections are those of the nested constructs

An extraction hears one event after another and keeps in mind what is open.
`ofEvents_outline` says that its sections are those that are read off the nested constructs:
no command line, no code block and no section is lost, made up or moved.

There is one lemma for each place in which events are met: in a code block
(`eq_of_leads_plain`), in inline text (`eq_of_leads_inlines`), in an item at any depth
(`goesOn_of_fits`), in an outermost list (`adds_of_leads_items`) and between blocks
(`adds_of_leads_blocks`).

A heading in a list item is left out (`plainItems`): an extraction hears text for the heading
before text for the item, and a template may start while an item is open.
-/
import PromptPipeline.Proofs.Document.Heard
import PromptPipeline.Proofs.Document.Nested
import PromptPipeline.Proofs.Edit.Run

namespace PromptPipeline.Document

set_option autoImplicit false

open Markdown (Event Tag)

/-! ## Telling what is nested -/

namespace Nested

variable {source : List Char} {x y : Extraction}

/-- Telling it leads from one extraction to another. -/
def Leads (source : List Char) (t : Nested) (x y : Extraction) : Prop :=
  t.events.foldlM (Extraction.tell source (lineStarts source)) x = .ok y

theorem leads_done : done.Leads source x y ↔ y = x := by
  constructor
  · intro leads
    cases leads
    rfl
  · rintro rfl
    rfl

theorem leads_text {chars : List Char} {rest : Nested} :
    (text chars rest).Leads source x y ↔ rest.Leads source (x.pushText chars) y := Iff.rfl

theorem leads_code {chars : List Char} {rest : Nested} :
    (code chars rest).Leads source x y ↔ rest.Leads source (x.pushCode chars) y := Iff.rfl

theorem leads_lineBreak {rest : Nested} :
    (lineBreak rest).Leads source x y ↔ rest.Leads source (x.pushText ['\n']) y := Iff.rfl

/-- What stands in a construct is told between its start and its end. -/
theorem leads_within {tag : Tag} {offset : Nat} {inner rest : Nested} :
    (within tag offset inner rest).Leads source x y
      ↔ ∃ a b c, x.enter source (lineAt (lineStarts source) offset) offset tag = .ok a
        ∧ inner.Leads source a b ∧ b.leave source tag = .ok c ∧ rest.Leads source c y := by
  unfold Leads
  rw [events, Event.wrap, List.cons_append, List.foldlM_cons, Except.bind_ok_iff]
  simp only [List.foldlM_append, Except.bind_ok_iff, List.append_assoc, List.foldlM_cons,
    List.singleton_append]
  constructor
  · rintro ⟨a, entered, b, told, c, left, after⟩
    exact ⟨a, b, c, entered, told, left, after⟩
  · rintro ⟨a, b, c, entered, told, left, after⟩
    exact ⟨a, entered, b, told, c, left, after⟩

theorem headless_within {tag : Tag} {offset : Nat} {inner rest : Nested}
    (headless : (within tag offset inner rest).headless = true) :
    inner.headless = true ∧ rest.headless = true := by
  cases tag with
  | heading level => simp [Nested.headless] at headless
  | _ => simpa [Nested.headless] using headless

theorem plainItems_within {tag : Tag} {offset : Nat} {inner rest : Nested}
    (plain : (within tag offset inner rest).plainItems = true) (noItem : tag ≠ .item) :
    inner.plainItems = true ∧ rest.plainItems = true := by
  cases tag <;> simp_all [plainItems]

/-! ## In a code block and in inline text -/

/-- What stands in a code block is pushed as it is. -/
theorem eq_of_leads_plain {t : Nested} (fits : t.fits .plain = true)
    (leads : t.Leads source x y) : y = x.pushText t.plainText := by
  induction t generalizing x with
  | done => rw [leads_done.1 leads, plainText, Extraction.pushText_nil]
  | text chars rest ih =>
      rw [ih (by simpa [Nested.fits, Content.allowsText] using fits) (leads_text.1 leads),
        Extraction.pushText_pushText, plainText]
  | code chars rest => simp [Nested.fits, Content.allowsSpans] at fits
  | lineBreak rest => simp [Nested.fits, Content.allowsSpans] at fits
  | within tag offset inner rest => simp [Nested.fits, Content.allows] at fits

/-- A text is heard of inline text, whatever follows; in a heading it is all that stands there. -/
structure IsHeard (context : Context) (t : Nested) (heard : List Char) : Prop where
  plain : context = .heading → heard = t.plainText
  hears : ∀ targets behind, hear context targets (t.events ++ behind)
    = (hear context targets behind).map (heard ++ ·)

namespace IsHeard

variable {context : Context} {t inner rest : Nested} {heard inside after : List Char}

theorem done : done.IsHeard context [] where
  plain _ := rfl
  hears targets behind := by simp [events]

/-- An event that pushes a text is heard before what follows it. -/
theorem cons {event : Event} {s : List Char} (isHeard : rest.IsHeard context heard)
    (first : t.events = event :: rest.events)
    (plain : context = .heading → t.plainText = s ++ rest.plainText)
    (pushes : ∀ targets behind,
      hear context targets (event :: behind) = (hear context targets behind).map (s ++ ·)) :
    t.IsHeard context (s ++ heard) where
  plain := by
    intro inHeading
    rw [plain inHeading, isHeard.plain inHeading]
  hears := by
    intro targets behind
    rw [first, List.cons_append, pushes, isHeard.hears, Option.map_map]
    simp [Function.comp_def]

/-- A construct is heard as its markup around what is in it, which a heading is without.  A link
is open in it. -/
theorem within {tag : Tag} {offset : Nat} (front back : String)
    (links : List String → List String) (isInside : inner.IsHeard context inside)
    (isAfter : rest.IsHeard context after)
    (enters : ∀ targets behind, hear context targets (.enter tag offset :: behind)
      = (hear context (links targets) behind).map (context.markup front ++ ·))
    (leaves : ∀ targets behind, hear context (links targets) (.leave tag :: behind)
      = (hear context targets behind).map (context.markup back ++ ·)) :
    (within tag offset inner rest).IsHeard context
      (context.markup front ++ (inside ++ (context.markup back ++ after))) where
  plain := by
    rintro rfl
    rw [isInside.plain rfl, isAfter.plain rfl, plainText]
    rfl
  hears := by
    intro targets behind
    simp only [events, Event.wrap, List.cons_append, List.append_assoc, List.nil_append, enters,
      isInside.hears, leaves, isAfter.hears, Option.map_map]
    simp [Function.comp_def]

end IsHeard

/-- What is heard of inline text, which in a heading is all of its text. -/
theorem hear_inlines (context : Context) {t : Nested} (fits : t.fits .inlines = true) :
    ∃ heard, t.IsHeard context heard := by
  induction t with
  | done => exact ⟨[], .done⟩
  | text chars rest ih =>
      obtain ⟨heard, isHeard⟩ := ih (by simpa [Nested.fits, Content.allowsText] using fits)
      exact ⟨_, isHeard.cons rfl (fun _ => rfl) fun _ _ => by simp [hear]⟩
  | code chars rest ih =>
      obtain ⟨heard, isHeard⟩ := ih (by simpa [Nested.fits, Content.allowsSpans] using fits)
      refine ⟨_, isHeard.cons rfl ?_ fun _ _ => by rw [hear]⟩
      rintro rfl
      rfl
  | lineBreak rest ih =>
      obtain ⟨heard, isHeard⟩ := ih (by simpa [Nested.fits, Content.allowsSpans] using fits)
      exact ⟨_, isHeard.cons rfl (fun _ => rfl) fun _ _ => by rw [hear]⟩
  | within tag offset inner rest ihInner ihRest =>
      simp only [Nested.fits, Bool.and_eq_true] at fits
      obtain ⟨⟨allowed, fitsInner⟩, fitsRest⟩ := fits
      have isInline : Content.of tag = .inlines := by cases tag <;> first | rfl | cases allowed
      rw [isInline] at fitsInner
      obtain ⟨inside, isInside⟩ := ihInner fitsInner
      obtain ⟨after, isAfter⟩ := ihRest fitsRest
      have unmarked : context.markup "" = [] := by cases context <;> rfl
      cases tag with
      | emphasis =>
          exact ⟨_, isInside.within "*" "*" id isAfter (by simp [hear]) (by simp [hear])⟩
      | strong =>
          exact ⟨_, isInside.within "**" "**" id isAfter (by simp [hear]) (by simp [hear])⟩
      | link target =>
          exact ⟨_, isInside.within "[" ("](" ++ target ++ ")") (target :: ·) isAfter
            (by simp [hear]) (by simp [hear])⟩
      | image =>
          exact ⟨_, isInside.within "" "" id isAfter (by simp [hear, unmarked])
            (by simp [hear, unmarked])⟩
      | _ => cases allowed

/-- Inline text is pushed into what is open. -/
theorem eq_of_leads_inlines {context : Context} (isIn : x.IsIn context)
    (noLinks : x.targets = []) {t : Nested} (fits : t.fits .inlines = true)
    (leads : t.Leads source x y) :
    ∃ heard, (context = .heading → heard = t.plainText) ∧ y = x.pushText heard := by
  obtain ⟨heard, isHeard⟩ := hear_inlines context fits
  have all : hear context [] t.events = some heard := by
    simpa [hear] using isHeard.hears [] []
  have told := Extraction.foldlM_tell source (lineStarts source) isIn all
  have unlinked : x.linked [] = x := by
    rw [← noLinks]
    rfl
  rw [← Extraction.linked_pushText, unlinked] at told
  exact ⟨heard, isHeard.plain, Except.ok.inj (leads.symm.trans told)⟩

/-- A code block adds its code to the current section. -/
theorem eq_of_leads_codeBlock {info : Option String} {offset : Nat} {inner : Nested}
    (fits : inner.fits .plain = true) {a b c : Extraction}
    (opened : a = { x with
      code := some ⟨Extraction.languageOf info, [], lineAt (lineStarts source) offset⟩ })
    (noHeading : x.heading = none) (leads : inner.Leads source a b)
    (left : b.leave source (.codeBlock info) = .ok c) :
    c = { x with
      code := none
      current.code := x.current.code
        ++ [codeBlock info inner.plainText (lineAt (lineStarts source) offset)] } := by
  subst opened
  have pushed := eq_of_leads_plain fits leads
  simp only [Extraction.pushText, noHeading, List.nil_append] at pushed
  subst pushed
  simp only [Extraction.leave, Extraction.closeCode] at left
  split at left
  · cases left
  · rw [noHeading, ← Except.ok.inj left]
    rfl

/-! ## In an item -/

end Nested

namespace Extraction

variable {source : List Char} {x : Extraction} {line : Nat} {text : List Char}

/-- An item is open, with its line and its text so far, and nothing in it. -/
structure InItem (x : Extraction) (line : Nat) (text : List Char) : Prop where
  heading : x.heading = none
  code : x.code = none
  item : x.item = some ⟨text, line⟩
  paragraph : x.paragraph = []
  depth : 1 ≤ x.depth

/-- With an item that is open, and further code blocks. -/
def saying (x : Extraction) (line : Nat) (text : List Char) (codes : List CodeBlock) :
    Extraction :=
  { x with item := some ⟨text, line⟩, current.code := x.current.code ++ codes }

theorem saying_saying (line : Nat) (text text' : List Char) (codes codes' : List CodeBlock) :
    (x.saying line text codes).saying line text' codes'
      = x.saying line text' (codes ++ codes') := by
  simp [saying]

theorem InItem.saying (inItem : x.InItem line text) (text' : List Char) (codes : List CodeBlock) :
    (x.saying line text' codes).InItem line text' :=
  ⟨inItem.heading, inItem.code, rfl, inItem.paragraph, inItem.depth⟩

theorem InItem.eq_saying (inItem : x.InItem line text) : x = x.saying line text [] := by
  simp [Extraction.saying, ← inItem.item]

theorem InItem.pushText (inItem : x.InItem line text) (s : List Char) :
    x.pushText s = x.saying line (text ++ s) [] := by
  simp [Extraction.pushText, inItem.heading, inItem.code, inItem.item, Extraction.saying]

theorem InItem.pushMarkup (inItem : x.InItem line text) (s : String) : x.pushMarkup s = x := by
  simp [Extraction.pushMarkup, inItem.item]

theorem InItem.flush (inItem : x.InItem line text) : x.flush source = .ok x := by
  have stripped : Text.strip Unicode.isBlank ([] : List Char) = [] := rfl
  unfold Extraction.flush
  simp only [inItem.paragraph, stripped]
  rw [← inItem.paragraph]

theorem InItem.openItem (inItem : x.InItem line text) (inner : 2 ≤ x.depth) (start : Nat) :
    x.openItem start = x.saying line (text ++ ['\n']) [] := by
  simp [Extraction.openItem, Nat.not_le.2 inner, inItem.item, Extraction.saying]

theorem InItem.closeItem (inItem : x.InItem line text) (inner : 2 ≤ x.depth) :
    x.closeItem = x := by
  have within : 1 < x.depth := inner
  simp [Extraction.closeItem, inItem.item, within]

theorem InItem.openParagraph (inItem : x.InItem line text) (start offset : Nat) :
    x.openParagraph source start offset
      = .ok (x.saying line (if text.all Unicode.isBlank then text else text ++ ['\n']) []) := by
  unfold Extraction.openParagraph
  rw [inItem.item]
  dsimp only
  split
  · rw [← inItem.eq_saying]
  · simp [Extraction.saying]

/-- The end of a paragraph or a quote is not told in an item. -/
theorem InItem.leave_block (inItem : x.InItem line text) :
    x.leave source .paragraph = .ok x ∧ x.leave source .quote = .ok x := by
  simp [Extraction.leave, inItem.item]

end Extraction

namespace Nested

variable {source : List Char} {x y : Extraction} {line : Nat} {text : List Char}

open Extraction (InItem)

/-- Told in an item, it goes on with the text of the item and adds its code blocks.  The items of
a list have to be inner ones, for an outermost item is told as a command. -/
def GoesOn (source : List Char) (content : Content) (t : Nested) : Prop :=
  ∀ ⦃x y : Extraction⦄ ⦃line : Nat⦄ ⦃text : List Char⦄, x.InItem line text →
    (content = .items → 2 ≤ x.depth) → t.Leads source x y →
    y = x.saying line (t.itemText text) (t.codes (lineStarts source))

theorem itemText_within (tag : Tag) (offset : Nat) (inner rest : Nested) (text : List Char) :
    (within tag offset inner rest).itemText text
      = rest.itemText ((within tag offset inner done).itemText text) := by
  cases tag <;> rfl

theorem codes_within (starts : List Nat) (tag : Tag) (offset : Nat) (inner rest : Nested) :
    (within tag offset inner rest).codes starts
      = (within tag offset inner done).codes starts ++ rest.codes starts := by
  cases tag <;> simp [codes]

section

variable {inner : Nested} {offset : Nat} {a b c : Extraction}

/-- A code block in an item leaves its text and adds its code. -/
theorem codeBlock_inItem {info : Option String} (fits : inner.fits .plain = true)
    (inItem : x.InItem line text)
    (entered : x.enter source (lineAt (lineStarts source) offset) offset (.codeBlock info) = .ok a)
    (told : inner.Leads source a b) (left : b.leave source (.codeBlock info) = .ok c) :
    c = x.saying line text
      [codeBlock info inner.plainText (lineAt (lineStarts source) offset)] := by
  simp only [Extraction.enter, inItem.flush] at entered
  rw [eq_of_leads_codeBlock fits (Except.ok.inj entered).symm inItem.heading told left,
    ← inItem.code, Extraction.saying, ← inItem.item]

/-- The items of a list in an item are inner ones. -/
theorem GoesOn.list (goesOn : inner.GoesOn source .items) (inItem : x.InItem line text)
    {start : Nat} (entered : x.enter source start offset .list = .ok a)
    (told : inner.Leads source a b) (left : b.leave source .list = .ok c) :
    c = x.saying line (inner.itemText text) (inner.codes (lineStarts source)) := by
  simp only [Extraction.enter, inItem.flush] at entered
  obtain rfl := Except.ok.inj entered
  have inside : InItem { x with depth := x.depth + 1 } line text :=
    { inItem with depth := Nat.le_add_left 1 x.depth }
  rw [← Except.ok.inj left, goesOn inside (fun _ => Nat.succ_le_succ inItem.depth) told]
  rfl

/-- The target of a link in an item is in mind only as long as the link is open. -/
theorem GoesOn.link {target : String} (goesOn : inner.GoesOn source .inlines)
    (inItem : x.InItem line text) {start : Nat}
    (entered : x.enter source start offset (.link target) = .ok a)
    (told : inner.Leads source a b) (left : b.leave source (.link target) = .ok c) :
    c = x.saying line (inner.itemText text) (inner.codes (lineStarts source)) := by
  have linked : InItem { x with targets := target :: x.targets } line text := { inItem with }
  simp only [Extraction.enter, linked.pushMarkup] at entered
  obtain rfl := Except.ok.inj entered
  have said := goesOn linked nofun told
  have inside : InItem { b with targets := b.targets.tail } line (inner.itemText text) := by
    rw [said]
    exact { linked.saying _ (inner.codes (lineStarts source)) with }
  rw [← Except.ok.inj left, inside.pushMarkup, said]
  rfl

/-- Any other construct may only start a new line, and leaves all as it is. -/
theorem GoesOn.through {content : Content} {text' : List Char}
    (goesOn : inner.GoesOn source content) (noList : content ≠ .items)
    (inItem : x.InItem line text) (opened : a = x.saying line text' [])
    (told : inner.Leads source a b)
    (closed : ∀ said, b.InItem line said → b.depth = x.depth → c = b) :
    c = x.saying line (inner.itemText text') (inner.codes (lineStarts source)) := by
  subst opened
  have said := goesOn (inItem.saying _ _) (absurd · noList) told
  rw [Extraction.saying_saying] at said
  subst said
  exact closed _ (inItem.saying _ _) rfl

/-- What a construct does in an item, if what stands in it goes on with the item. -/
theorem GoesOn.construct {tag : Tag} (goesOn : inner.GoesOn source (.of tag))
    (fits : inner.fits (.of tag) = true) (noHeading : ∀ level, tag ≠ .heading level)
    (inItem : x.InItem line text) (deep : tag = .item → 2 ≤ x.depth)
    (entered : x.enter source (lineAt (lineStarts source) offset) offset tag = .ok a)
    (told : inner.Leads source a b) (left : b.leave source tag = .ok c) :
    c = x.saying line ((within tag offset inner done).itemText text)
      ((within tag offset inner done).codes (lineStarts source)) := by
  -- Any construct but a code block has the code blocks in it.
  have within {said : List Char} (is : c = x.saying line said (inner.codes (lineStarts source))) :
      c = x.saying line said (inner.codes (lineStarts source) ++ done.codes (lineStarts source)) :=
    is.trans (congrArg (x.saying line said) (List.append_nil _).symm)
  cases tag with
  | heading level => exact absurd rfl (noHeading level)
  | codeBlock info => exact codeBlock_inItem fits inItem entered told left
  | list => exact within (goesOn.list inItem entered told left)
  | link target => exact within (goesOn.link inItem entered told left)
  | item =>
      have inner := deep rfl
      refine within (goesOn.through nofun inItem ?_ told fun said inside same => ?_)
      · exact (Except.ok.inj entered).symm.trans (inItem.openItem inner _)
      · exact (Except.ok.inj left).symm.trans (inside.closeItem (same ▸ inner))
  | paragraph =>
      refine within (goesOn.through nofun inItem ?_ told fun said inside _ => ?_)
      · exact Except.ok.inj (entered.symm.trans (inItem.openParagraph _ _))
      · exact Except.ok.inj (left.symm.trans inside.leave_block.1)
  | quote =>
      refine within (goesOn.through nofun inItem ?_ told fun said inside _ => ?_)
      · exact (Except.ok.inj entered).symm.trans inItem.eq_saying
      · exact Except.ok.inj (left.symm.trans inside.leave_block.2)
  | emphasis | strong =>
      refine within (goesOn.through nofun inItem ?_ told fun said inside _ => ?_)
      · rw [← Except.ok.inj entered, inItem.pushMarkup]
        exact inItem.eq_saying
      · rw [← Except.ok.inj left, inside.pushMarkup]
  | image =>
      refine within (goesOn.through nofun inItem ?_ told fun said inside _ => ?_)
      · rw [← Except.ok.inj entered]
        exact inItem.eq_saying
      · exact (Except.ok.inj left).symm

end

/-- **What stands in an item, at any depth, goes on with its text and adds its code.** -/
theorem goesOn_of_fits {t : Nested} {content : Content} (fits : t.fits content = true)
    (headless : t.headless = true) : t.GoesOn source content := by
  induction t generalizing content with
  | done =>
      intro x y line text inItem _ leads
      rw [leads_done.1 leads]
      exact inItem.eq_saying
  | text chars rest ih =>
      intro x y line text inItem deep leads
      simp only [Nested.fits, Bool.and_eq_true] at fits
      rw [leads_text, inItem.pushText] at leads
      rw [ih fits.2 headless (inItem.saying _ _) deep leads, Extraction.saying_saying]
      rfl
  | code chars rest ih =>
      intro x y line text inItem deep leads
      simp only [Nested.fits, Bool.and_eq_true] at fits
      have pushed : x.pushCode chars = x.pushText ('\x60' :: (chars ++ ['\x60'])) := by
        simp [Extraction.pushCode, inItem.heading]
      rw [leads_code, pushed, inItem.pushText] at leads
      rw [ih fits.2 headless (inItem.saying _ _) deep leads, Extraction.saying_saying]
      rfl
  | lineBreak rest ih =>
      intro x y line text inItem deep leads
      simp only [Nested.fits, Bool.and_eq_true] at fits
      rw [leads_lineBreak, inItem.pushText] at leads
      rw [ih fits.2 headless (inItem.saying _ _) deep leads, Extraction.saying_saying]
      rfl
  | within tag offset inner rest ihInner ihRest =>
      intro x y line text inItem deep leads
      simp only [Nested.fits, Bool.and_eq_true] at fits
      obtain ⟨⟨allowed, fitsInner⟩, fitsRest⟩ := fits
      obtain ⟨headlessInner, headlessRest⟩ := headless_within headless
      obtain ⟨a, b, c, entered, told, left, after⟩ := leads_within.1 leads
      have noHeading : ∀ level, tag ≠ .heading level := by
        rintro level rfl
        simp [Nested.headless] at headless
      have isInner : tag = .item → 2 ≤ x.depth := by
        rintro rfl
        exact deep (by cases content <;> first | rfl | cases allowed)
      have said := (ihInner fitsInner headlessInner).construct fitsInner noHeading inItem isInner
        entered told left
      subst said
      rw [ihRest fitsRest headlessRest (inItem.saying _ _) deep after, Extraction.saying_saying,
        itemText_within tag offset inner rest, codes_within _ tag offset inner rest]

end Nested

/-! ## Outside of items -/

theorem divide_codes (s : Section) (codes : List CodeBlock) (rest : List Entry) :
    divide s (codes.map .code ++ rest) = divide { s with code := s.code ++ codes } rest := by
  induction codes generalizing s with
  | nil => simp
  | cons block codes ih => simp [divide, ih]

theorem divide_command (s : Section) (given : Option CommandLine) (rest : List Entry) :
    divide s (given.toList.map .command ++ rest)
      = divide { s with commands := s.commands ++ given.toList } rest := by
  cases given with
  | none => simp
  | some line => rfl

namespace Extraction

variable {source : List Char} {x y z : Extraction} {depth : Nat}

/-- Nothing is open but lists. -/
structure Idle (x : Extraction) (depth : Nat) : Prop where
  heading : x.heading = none
  code : x.code = none
  item : x.item = none
  targets : x.targets = []
  depth : x.depth = depth

/-- The sections told so far, if entries follow. -/
def sections (x : Extraction) (rest : List Entry) : List Section :=
  x.before.reverse.map Section.outline ++ divide x.current.outline rest

/-- What one extraction has told more than another are entries. -/
def Adds (x y : Extraction) (entries : List Entry) : Prop :=
  ∀ rest, y.sections rest = x.sections (entries ++ rest)

theorem Adds.trans {first second : List Entry} (adds : x.Adds y first) (more : y.Adds z second) :
    x.Adds z (first ++ second) := by
  intro rest
  rw [more, adds, List.append_assoc]

theorem adds_nil (before : y.before = x.before) (current : y.current.outline = x.current.outline) :
    x.Adds y [] := by
  intro rest
  rw [sections, sections, before, current]
  rfl

theorem Idle.pushText (idle : x.Idle depth) (s : List Char) :
    x.pushText s = { x with paragraph := x.paragraph ++ s } := by
  simp [Extraction.pushText, idle.heading, idle.code, idle.item]

/-- What ends a paragraph may change the prose and the result. -/
theorem flush_eq_ok (flushed : x.flush source = .ok y) :
    ∃ prose result, y = { x with paragraph := [], prose := prose, current.result := result } := by
  unfold flush at flushed
  dsimp only at flushed
  split at flushed
  · exact ⟨_, _, (Except.ok.inj flushed).symm⟩
  · split at flushed
    · unfold setResult at flushed
      split at flushed
      · cases flushed
      · split at flushed
        · cases flushed
        · exact ⟨_, _, (Except.ok.inj flushed).symm⟩
    · exact ⟨_, _, (Except.ok.inj flushed).symm⟩
  · exact ⟨_, _, (Except.ok.inj flushed).symm⟩

theorem Idle.flush (idle : x.Idle depth) (flushed : x.flush source = .ok y) :
    y.Idle depth ∧ y.paragraph = [] ∧ x.Adds y [] := by
  obtain ⟨prose, result, rfl⟩ := flush_eq_ok flushed
  exact ⟨{ idle with }, rfl, adds_nil rfl rfl⟩

theorem describe_eq (x : Extraction) :
    ∃ prose description,
      x.describe = { x with prose := prose, current.description := description } := by
  unfold describe
  split
  · exact ⟨x.prose, x.current.description, rfl⟩
  · exact ⟨_, _, rfl⟩

theorem adds_describe (x : Extraction) : x.Adds x.describe [] := by
  obtain ⟨prose, description, described⟩ := describe_eq x
  rw [described]
  exact adds_nil rfl rfl

theorem Idle.closeHeading (idle : x.Idle depth) (level line : Nat) (text : List Char) :
    ({ x with heading := some ⟨level, text, line⟩ }.closeHeading).Idle depth
      ∧ x.Adds ({ x with heading := some ⟨level, text, line⟩ }.closeHeading)
        (if level = 2 then [.template (String.ofList (Text.strip Unicode.isBlank text)) line]
        else []) := by
  unfold Extraction.closeHeading
  dsimp only
  split
  · rename_i isTitle
    rw [if_neg (by omega)]
    exact ⟨{ idle with heading := rfl }, adds_nil rfl rfl⟩
  · split
    · obtain ⟨prose, description, described⟩ := describe_eq { x with heading := none }
      rw [described]
      refine ⟨{ idle with heading := rfl }, fun rest => ?_⟩
      simp [sections, divide, Section.outline]
    · exact ⟨{ idle with heading := rfl }, adds_nil rfl rfl⟩

theorem closeItem_saying (atMost : x.depth ≤ 1) (line : Nat) (text : List Char)
    (codes : List CodeBlock) :
    (x.saying line text codes).closeItem
      = { x with
          item := none
          current.code := x.current.code ++ codes
          current.commands := x.current.commands ++ (Nested.command? text line).toList } := by
  have last : ¬1 < x.depth := Nat.not_lt.2 atMost
  unfold closeItem saying Nested.command?
  simp only [last, if_false]
  cases Text.strip Unicode.isBlank text with
  | nil => simp
  | cons first rest => simp

end Extraction

namespace Nested

variable {source : List Char} {x y : Extraction}

open Extraction (Idle InItem)

/-- Each item of an outermost list adds its code and its command line. -/
theorem adds_of_leads_items {t : Nested} (fits : t.fits .items = true)
    (plain : t.plainItems = true) (idle : x.Idle 1) (noParagraph : x.paragraph = [])
    (leads : t.Leads source x y) :
    y.Idle 1 ∧ x.Adds y (t.entries (lineStarts source)) := by
  induction t generalizing x with
  | done =>
      rw [leads_done.1 leads]
      exact ⟨idle, Extraction.adds_nil rfl rfl⟩
  | text chars rest => simp [Nested.fits, Content.allowsText] at fits
  | code chars rest => simp [Nested.fits, Content.allowsSpans] at fits
  | lineBreak rest => simp [Nested.fits, Content.allowsSpans] at fits
  | within tag offset inner rest _ ih =>
      simp only [Nested.fits, Bool.and_eq_true] at fits
      obtain ⟨⟨allowed, fitsInner⟩, fitsRest⟩ := fits
      obtain rfl : tag = .item := by cases tag <;> first | rfl | cases allowed
      simp only [plainItems, Bool.and_eq_true] at plain
      obtain ⟨a, b, c, entered, told, left, after⟩ := leads_within.1 leads
      have opened : a = { x with item := some ⟨[], lineAt (lineStarts source) offset⟩ } := by
        rw [← Except.ok.inj entered]
        simp [Extraction.openItem, idle.depth]
      subst opened
      have inItem :
          InItem { x with item := some ⟨[], lineAt (lineStarts source) offset⟩ } _ [] :=
        ⟨idle.heading, idle.code, rfl, noParagraph, Nat.le_of_eq idle.depth.symm⟩
      have said := goesOn_of_fits fitsInner plain.1 inItem nofun told
      change b = x.saying _ (inner.itemText []) (inner.codes (lineStarts source)) at said
      have closed := Except.ok.inj left
      rw [said, Extraction.closeItem_saying (Nat.le_of_eq idle.depth)] at closed
      have idleAgain : Idle c 1 := by
        rw [← closed]
        exact { idle with item := rfl }
      have added : x.Adds c ((inner.codes (lineStarts source)).map .code
          ++ (command? (inner.itemText []) (lineAt (lineStarts source) offset)).toList.map
            .command) := by
        intro behind
        rw [Extraction.sections, Extraction.sections, List.append_assoc, divide_codes,
          divide_command, ← closed]
        rfl
      obtain ⟨isIdle, adds⟩ := ih fitsRest plain.2 idleAgain (by rw [← closed, noParagraph]) after
      exact ⟨isIdle, added.trans adds⟩

theorem entries_inlines (starts : List Nat) {t : Nested} (fits : t.fits .inlines = true) :
    t.entries starts = [] := by
  induction t with
  | done => rfl
  | text chars rest ih | code chars rest ih | lineBreak rest ih =>
      simp only [Nested.fits, Bool.and_eq_true] at fits
      exact ih fits.2
  | within tag offset inner rest ihInner ihRest =>
      simp only [Nested.fits, Bool.and_eq_true] at fits
      obtain ⟨⟨allowed, fitsInner⟩, fitsRest⟩ := fits
      have nothing := ihRest fitsRest
      cases tag with
      | emphasis | strong | link target | image => simp [entries, ihInner fitsInner, nothing]
      | _ => cases allowed

section Block

variable {a b c : Extraction} {offset : Nat} {inner : Nested}

/-- A paragraph between blocks adds nothing to the outline. -/
theorem adds_paragraph (fits : inner.fits .inlines = true) (idle : x.Idle 0)
    (entered : x.enter source (lineAt (lineStarts source) offset) offset .paragraph = .ok a)
    (told : inner.Leads source a b) (left : b.leave source .paragraph = .ok c) :
    c.Idle 0 ∧ x.Adds c [] := by
  simp only [Extraction.enter, Extraction.openParagraph, idle.item] at entered
  obtain ⟨x₁, flushed, opened⟩ := Except.bind_ok_iff.1 entered
  obtain ⟨idle₁, -, adds₁⟩ := idle.flush flushed
  have idleOpened : a.Idle 0 := by
    rw [← Except.ok.inj opened]
    exact { idle₁ with }
  have addsOpened : x₁.Adds a [] := by
    rw [← Except.ok.inj opened]
    exact Extraction.adds_nil rfl rfl
  have isIn : a.IsIn .prose := ⟨idleOpened.heading, idleOpened.code, idleOpened.item⟩
  obtain ⟨heard, -, pushed⟩ := eq_of_leads_inlines isIn idleOpened.targets fits told
  rw [idleOpened.pushText] at pushed
  have idleTold : b.Idle 0 := by
    rw [pushed]
    exact { idleOpened with }
  have addsTold : a.Adds b [] := by
    rw [pushed]
    exact Extraction.adds_nil rfl rfl
  simp only [Extraction.leave, idleTold.item] at left
  obtain ⟨idle₂, -, adds₂⟩ := idleTold.flush left
  exact ⟨idle₂, ((adds₁.trans addsOpened).trans addsTold).trans adds₂⟩

/-- A heading of level 2 adds its template, and another one adds nothing. -/
theorem adds_heading {level : Nat} (fits : inner.fits .inlines = true) (idle : x.Idle 0)
    (entered : x.enter source (lineAt (lineStarts source) offset) offset (.heading level) = .ok a)
    (told : inner.Leads source a b) (left : b.leave source (.heading level) = .ok c) :
    c.Idle 0 ∧ x.Adds c
      (if level = 2 then
        [.template (String.ofList (Text.strip Unicode.isBlank inner.plainText))
          (lineAt (lineStarts source) offset)]
      else []) := by
  obtain ⟨x₁, flushed, opened⟩ := Except.bind_ok_iff.1 entered
  obtain rfl := Except.ok.inj opened
  obtain ⟨idle₁, -, adds₁⟩ := idle.flush flushed
  have isIn : Extraction.IsIn
      { x₁ with heading := some ⟨level, [], lineAt (lineStarts source) offset⟩ } .heading := rfl
  obtain ⟨heard, isText, rfl⟩ := eq_of_leads_inlines isIn idle₁.targets fits told
  obtain rfl := isText rfl
  obtain rfl := Except.ok.inj left
  obtain ⟨idle₂, adds₂⟩ := idle₁.closeHeading level _ inner.plainText
  exact ⟨idle₂, adds₁.trans adds₂⟩

/-- A code block between blocks adds itself. -/
theorem adds_codeBlock {info : Option String} (fits : inner.fits .plain = true) (idle : x.Idle 0)
    (entered : x.enter source (lineAt (lineStarts source) offset) offset (.codeBlock info) = .ok a)
    (told : inner.Leads source a b) (left : b.leave source (.codeBlock info) = .ok c) :
    c.Idle 0 ∧ x.Adds c
      [.code (codeBlock info inner.plainText (lineAt (lineStarts source) offset))] := by
  obtain ⟨x₁, flushed, opened⟩ := Except.bind_ok_iff.1 entered
  obtain ⟨idle₁, -, adds₁⟩ := idle.flush flushed
  have closed := eq_of_leads_codeBlock fits (Except.ok.inj opened).symm idle₁.heading told left
  rw [closed]
  exact ⟨{ idle₁ with code := rfl }, adds₁.trans fun _ => rfl⟩

/-- An outermost list adds what its items do. -/
theorem adds_list (fits : inner.fits .items = true) (plain : inner.plainItems = true)
    (idle : x.Idle 0)
    (entered : x.enter source (lineAt (lineStarts source) offset) offset .list = .ok a)
    (told : inner.Leads source a b) (left : b.leave source .list = .ok c) :
    c.Idle 0 ∧ x.Adds c (inner.entries (lineStarts source)) := by
  obtain ⟨x₁, flushed, opened⟩ := Except.bind_ok_iff.1 entered
  obtain rfl := Except.ok.inj opened
  obtain ⟨idle₁, noParagraph, adds₁⟩ := idle.flush flushed
  have inList : Idle { x₁ with depth := x₁.depth + 1 } 1 :=
    { idle₁ with depth := congrArg (· + 1) idle₁.depth }
  obtain ⟨idle₂, adds₂⟩ := adds_of_leads_items fits plain inList noParagraph told
  obtain rfl := Except.ok.inj left
  exact ⟨{ idle₂ with depth := congrArg (· - 1) idle₂.depth }, adds₁.trans adds₂⟩

end Block

/-- **Blocks add their entries and leave nothing open.** -/
theorem adds_of_leads_blocks {t : Nested} (fits : t.fits .blocks = true)
    (plain : t.plainItems = true) (idle : x.Idle 0) (leads : t.Leads source x y) :
    y.Idle 0 ∧ x.Adds y (t.entries (lineStarts source)) := by
  induction t generalizing x y with
  | done =>
      rw [leads_done.1 leads]
      exact ⟨idle, Extraction.adds_nil rfl rfl⟩
  | text chars rest => simp [Nested.fits, Content.allowsText] at fits
  | code chars rest => simp [Nested.fits, Content.allowsSpans] at fits
  | lineBreak rest => simp [Nested.fits, Content.allowsSpans] at fits
  | within tag offset inner rest ihInner ihRest =>
      simp only [Nested.fits, Bool.and_eq_true] at fits
      obtain ⟨⟨allowed, fitsInner⟩, fitsRest⟩ := fits
      have noItem : tag ≠ .item := by
        rintro rfl
        cases allowed
      obtain ⟨plainInner, plainRest⟩ := plainItems_within plain noItem
      obtain ⟨a, b, c, entered, told, left, after⟩ := leads_within.1 leads
      -- What a block adds, then what follows it.
      have goOn {entries : List Entry} (single : c.Idle 0 ∧ x.Adds c entries) :
          y.Idle 0 ∧ x.Adds y (entries ++ rest.entries (lineStarts source)) := by
        obtain ⟨isIdle, adds⟩ := ihRest fitsRest plainRest single.1 after
        exact ⟨isIdle, single.2.trans adds⟩
      cases tag with
      | paragraph =>
          have silent := entries_inlines (lineStarts source) fitsInner
          simpa [entries, silent] using goOn (adds_paragraph fitsInner idle entered told left)
      | heading level => exact goOn (adds_heading fitsInner idle entered told left)
      | codeBlock info => exact goOn (adds_codeBlock fitsInner idle entered told left)
      | quote =>
          obtain rfl := Except.ok.inj entered
          obtain ⟨idle₁, adds₁⟩ := ihInner fitsInner plainInner idle told
          simp only [Extraction.leave, idle₁.item] at left
          obtain ⟨idle₂, -, adds₂⟩ := idle₁.flush left
          refine goOn ⟨idle₂, ?_⟩
          simpa using adds₁.trans adds₂
      | list => exact goOn (adds_list fitsInner plainInner idle entered told left)
      | _ => cases allowed

/-! ## The whole document -/

/-- What is told last does not change the sections. -/
theorem outline_of_finish {d : Document} (finished : x.finish source = .ok d) :
    (d.head :: d.templates).map Section.outline = x.sections [] := by
  obtain ⟨x₁, flushed, listed⟩ := Except.bind_ok_iff.1 finished
  have ended : x.Adds x₁ [] := by
    obtain ⟨prose, result, rfl⟩ := Extraction.flush_eq_ok flushed
    exact Extraction.adds_nil rfl rfl
  have same : x₁.describe.sections [] = x.sections [] :=
    (x₁.adds_describe []).trans (ended [])
  rw [← same, Extraction.sections]
  dsimp only at listed
  split at listed
  · rename_i head templates sections
    obtain rfl := Except.ok.inj listed
    have outlined := congrArg (List.map Section.outline) sections
    rw [List.map_append] at outlined
    exact outlined.symm
  · rename_i none
    simp at none

/-- **The sections of a document are those that its headings of level 2, its outermost items
and its code blocks make up.** -/
theorem ofEvents_outline {t : Nested} {d : Document} (fits : t.fits .blocks = true)
    (plain : t.plainItems = true) (told : ofEvents source t.events = .ok d) :
    (d.head :: d.templates).map Section.outline
      = divide {} (t.entries (lineStarts source)) := by
  obtain ⟨x, leads, finished⟩ := Except.bind_ok_iff.1 told
  obtain ⟨-, adds⟩ := adds_of_leads_blocks fits plain ⟨rfl, rfl, rfl, rfl, rfl⟩ leads
  rw [outline_of_finish finished, adds, List.append_nil]
  rfl

/-- A heading, an item with a nested one, and a template with a quoted item and its code. -/
def twoSections : Nested :=
  .within (.heading 1) 0 (.text ['T'] .done) <|
  .within .list 2 (.within .item 2
    (.code ['a'] <| .lineBreak <| .text ['b'] <|
      .within .list 6 (.within .item 6 (.text ['c'] .done) .done) .done) .done) <|
  .within (.heading 2) 8 (.text [' ', 'U'] .done) <|
  .within .quote 10 (.within .list 10 (.within .item 10
    (.within .paragraph 10 (.text ['d'] .done) <|
      .within .paragraph 10 (.within .strong 10 (.text ['e'] .done) .done) .done) .done) .done) <|
  .within (.codeBlock (some "text x")) 12 (.text ['f', '\n', '\n'] .done) .done

/-- Sections with what stands in their items and code blocks. -/
theorem ofEvents_outline_twoSections :
    ∃ d, ofEvents ['0', '\n', '2', '\n', '4', '\n', '6', '\n', '8', '\n', '0', '\n', '2']
        twoSections.events = .ok d
      ∧ (d.head :: d.templates).map Section.outline =
        [{ commands := [⟨"\x60a\x60\nb\nc", 2⟩] },
          { title := "U"
            line := 5
            commands := [⟨"d\ne", 6⟩]
            code := [⟨some "text", "f\n", 7⟩] }] := by
  have told : ∃ d, ofEvents
      ['0', '\n', '2', '\n', '4', '\n', '6', '\n', '8', '\n', '0', '\n', '2']
      twoSections.events = .ok d := ⟨_, rfl⟩
  obtain ⟨d, told⟩ := told
  exact ⟨d, told, (ofEvents_outline (t := twoSections) rfl rfl told).trans (by decide)⟩

end Nested

end PromptPipeline.Document
