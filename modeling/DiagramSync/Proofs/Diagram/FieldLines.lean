import DiagramSync.Proofs.Diagram.Names
import DiagramSync.Proofs.Model.Ids

/-!
# The grammar of field lines

A field line is a type, a name and any number of markers, and perhaps a description between quotes
at the end.  It is cut from both sides: the type and the name are taken from the left, up to the
next blank or quote, the description from the right, and what is left in between are the markers.
So nothing in the description is ever taken for a marker.  A type or a name may hold braces, but a
line in which the name says something opens no block, for behind the brace of an opening there is
nothing but a brace.

* `WrittenMarker`, `WrittenRemark`, `WrittenField` — a field line as it is written
* `words_flatMap` — the markers are found between their separators
* `description?_remark`, `description?_unquoted` — the description is found at the end
* `WrittenField.insideForm_chars` — the form of a field line
* **`reads_fieldLine`** — the field that is read is the one that was written
-/

namespace DiagramSync

open Text LineForm

/-! ## Tokens -/

/-- A character that may stand in the type or the name of a field. -/
structure IsTokenText (cs : List Char) : Prop where
  /-- No character is blank. -/
  blank : ∀ c ∈ cs, isBlank c = false
  /-- No character is a double quote. -/
  quote : IsUnquoted cs

lemma IsTokenText.all {cs : List Char} (h : IsTokenText cs) : ∀ c ∈ cs, isTokenChar c = true := by
  intro c hc
  simp [isTokenChar, h.blank c hc, h.quote c hc]

instance (cs : List Char) : Decidable (IsTokenText cs) :=
  decidable_of_iff (cs.all isTokenChar = true) <| by
    refine ⟨fun h => ?_, fun h => List.all_eq_true.mpr h.all⟩
    have hchar := List.all_eq_true.mp h
    simp only [isTokenChar, Bool.and_eq_true, Bool.not_eq_true', bne_iff_ne] at hchar
    exact ⟨fun c hc => (hchar c hc).1, fun c hc => (hchar c hc).2⟩

lemma isTokenChar_of_blank {c : Char} (h : isBlank c = true) : isTokenChar c = false := by
  simp [isTokenChar, h]

/-! ## Words -/

section Words

variable {p : Char → Bool}

lemma words_cons_of_separator {c : Char} (hc : p c = true) (cs : List Char) :
    words p (c :: cs) = words p cs := by
  cases cs <;> simp [words, hc]

lemma words_append_of_separators {seps : List Char} (h : ∀ c ∈ seps, p c = true) (cs : List Char) :
    words p (seps ++ cs) = words p cs := by
  induction seps with
  | nil => rfl
  | cons c seps ih =>
    rw [List.cons_append, words_cons_of_separator (h c List.mem_cons_self),
      ih fun d hd => h d (List.mem_cons_of_mem c hd)]

/-- A word ends where a separator stands. -/
lemma words_append {token rest : List Char} (hne : token ≠ []) (htoken : ∀ c ∈ token, p c = false)
    (hrest : ∀ c ∈ rest.head?, p c = true) : words p (token ++ rest) = token :: words p rest := by
  induction token with
  | nil => exact absurd rfl hne
  | cons c cs ih =>
    have hc := htoken c List.mem_cons_self
    cases cs with
    | nil =>
      cases rest with
      | nil => simp [words, hc]
      | cons d rest => simp [words, hc, hrest d rfl]
    | cons d ds =>
      have hd := htoken d (by simp)
      have hwords := ih (List.cons_ne_nil d ds) fun x hx => htoken x (List.mem_cons_of_mem c hx)
      rw [List.cons_append] at hwords
      simp only [List.cons_append, words, hc, hd, Bool.false_eq_true, if_false, hwords]

end Words

/-! ## Markers -/

/-- A marker as it is written, with the separators before it. -/
structure WrittenMarker where
  /-- The characters before the marker. -/
  before : List Char
  /-- There is one at least. -/
  separated : before ≠ []
  /-- They are blanks and commas. -/
  separators : ∀ c ∈ before, isBlank c = true ∨ c = ','
  /-- The marker. -/
  marker : List Char
  /-- It is not empty. -/
  nonempty : marker ≠ []
  /-- It holds no blanks and no quotes. -/
  token : IsTokenText marker
  /-- It holds no commas. -/
  comma : ∀ c ∈ marker, c ≠ ','

/-- The characters of a marker and of the separators before it. -/
def WrittenMarker.chars (m : WrittenMarker) : List Char :=
  m.before ++ m.marker

lemma isMarkerSeparator_iff {c : Char} : isMarkerSeparator c = true ↔ isBlank c = true ∨ c = ',' := by
  simp [isMarkerSeparator]

/-- The markers are found between their separators. -/
lemma words_flatMap (ms : List WrittenMarker) {trailing : List Char}
    (htrailing : ∀ c ∈ trailing, isBlank c = true ∨ c = ',') :
    words isMarkerSeparator (ms.flatMap WrittenMarker.chars ++ trailing)
      = ms.map WrittenMarker.marker := by
  have hseparator : ∀ {cs : List Char}, (∀ c ∈ cs, isBlank c = true ∨ c = ',') →
      ∀ c ∈ cs, isMarkerSeparator c = true :=
    fun h c hc => isMarkerSeparator_iff.mpr (h c hc)
  induction ms with
  | nil =>
    have hwords := words_append_of_separators (hseparator htrailing) []
    rwa [List.append_nil] at hwords
  | cons m ms ih =>
    have hmarker : ∀ c ∈ m.marker, isMarkerSeparator c = false := by
      intro c hc
      simp [isMarkerSeparator, m.token.blank c hc, m.comma c hc]
    have hrest : ∀ c ∈ (ms.flatMap WrittenMarker.chars ++ trailing).head?,
        isMarkerSeparator c = true := by
      intro c hc
      cases ms with
      | nil => exact hseparator htrailing c (List.mem_of_mem_head? hc)
      | cons m' ms =>
        obtain ⟨d, ds, hbefore⟩ := List.exists_cons_of_ne_nil m'.separated
        simp only [List.flatMap_cons, WrittenMarker.chars, hbefore, List.cons_append,
          List.head?_cons, Option.mem_some_iff] at hc
        exact hseparator m'.separators c (by simp [hbefore, hc])
    rw [List.flatMap_cons, WrittenMarker.chars, List.append_assoc, List.append_assoc,
      words_append_of_separators (hseparator m.separators), words_append m.nonempty hmarker hrest,
      ih, List.map_cons]

/-! ## Descriptions -/

/-- A description as it is written, with the blanks behind it. -/
structure WrittenRemark where
  /-- The text between the quotes. -/
  text : List Char
  /-- It holds no double quote. -/
  unquoted : IsUnquoted text
  /-- The blanks at the end of the line. -/
  trailing : Blanks

/-- The characters of a description. -/
def WrittenRemark.chars (r : WrittenRemark) : List Char :=
  '"' :: (r.text ++ '"' :: r.trailing.chars)

/-- The description is what stands between the last two quotes. -/
lemma description?_remark (before : List Char) (r : WrittenRemark) :
    description? (before ++ r.chars) = (before, some r.text) := by
  have hreverse : (before ++ r.chars).reverse
      = r.trailing.chars.reverse ++ '"' :: (r.text.reverse ++ '"' :: before.reverse) := by
    simp [WrittenRemark.chars]
  have hblank : ∀ c ∈ r.trailing.chars.reverse, isBlank c = true :=
    fun c hc => r.trailing.blank c (List.mem_reverse.mp hc)
  have hunquoted : ∀ c ∈ r.text.reverse, isUnquote c = true :=
    fun c hc => r.unquoted.all c (List.mem_reverse.mp hc)
  have hquote : ∀ c ∈ ('"' :: before.reverse).head?, isUnquote c = false :=
    fun c hc => Option.some.inj hc ▸ by decide
  obtain ⟨htake, hdrop⟩ := span_append hunquoted hquote
  have htrim : trimLeft (before ++ r.chars).reverse
      = '"' :: (r.text.reverse ++ '"' :: before.reverse) := by
    rw [hreverse, trimLeft, List.dropWhile_append_of_pos hblank]
    rfl
  rw [description?, htrim]
  simp only [htake, hdrop, List.reverse_reverse]

/-- Without quotes there is no description. -/
lemma description?_unquoted {cs : List Char} (h : IsUnquoted cs) : description? cs = (cs, none) := by
  rw [description?]
  split
  · rename_i back heq
    have hmem : '"' ∈ trimLeft cs.reverse := heq ▸ List.mem_cons_self
    exact absurd rfl (h _ (List.mem_reverse.mp (mem_of_mem_trimLeft hmem)))
  · rfl

/-! ## Names that say something -/

/-- A token of which cleaning leaves something holds a character that is no delimiter. -/
lemma exists_not_delimiter {name : List Char} (hname : IsTokenText name)
    (h : fieldNameChars name ≠ []) : ∃ c ∈ name, isBlank c = false ∧ isDelimiter c = false := by
  rw [fieldNameChars, map_plainSpace_eq_self hname.blank] at h
  have hne : ((trim name).filter (· != '"')).filter (fun c => !isDelimiter c) ≠ [] := by
    intro hnil
    rw [hnil] at h
    exact h rfl
  obtain ⟨c, hc⟩ := List.exists_mem_of_ne_nil _ hne
  obtain ⟨hc, hdelimiter⟩ := List.mem_filter.mp hc
  have hmem := mem_of_mem_trim (List.mem_filter.mp hc).1
  exact ⟨c, hmem, hname.blank c hmem, by simpa using hdelimiter⟩

/-- A line opens no block if behind its first name a character stands that is no blank and no
brace. -/
lemma blockOpening?_eq_none_of_mem {line name rest : List Char} {c : Char}
    (hname : name? line = some (name, rest)) (hc : c ∈ rest) (hblank : isBlank c = false)
    (hdelimiter : isDelimiter c = false) : blockOpening? line = none := by
  refine blockOpening?_eq_none hname fun inner hinner => ?_
  have hmem := mem_trimLeft hc hblank
  rw [hinner] at hmem
  rcases List.mem_cons.mp hmem with rfl | hmem
  · exact absurd hdelimiter (by decide)
  · have hmem' := mem_trimLeft hmem hblank
    refine ⟨List.ne_nil_of_mem hmem', fun heq => ?_⟩
    rw [heq, List.mem_singleton] at hmem'
    rw [hmem'] at hdelimiter
    exact absurd hdelimiter (by decide)

/-! ## Lines -/

/-- A field line as it is written. -/
structure WrittenField where
  /-- The type. -/
  type : List Char
  /-- It holds no blanks and no quotes. -/
  typeToken : IsTokenText type
  /-- It starts with a letter without accent or an underscore. -/
  lead : ∃ c ∈ type.head?, c.isAlpha = true ∨ c = '_'
  /-- The blanks between the type and the name. -/
  gap : Blanks
  /-- There is one at least. -/
  apart : gap.chars ≠ []
  /-- The name. -/
  name : List Char
  /-- It holds no blanks and no quotes. -/
  nameToken : IsTokenText name
  /-- Cleaning leaves something of it. -/
  named : fieldNameChars name ≠ []
  /-- The markers. -/
  markers : List WrittenMarker
  /-- The blanks and commas behind them. -/
  trailing : List Char
  /-- They are blanks and commas. -/
  separators : ∀ c ∈ trailing, isBlank c = true ∨ c = ','
  /-- What follows the name, up to the description, starts with a blank. -/
  spaced : ∀ c ∈ (markers.flatMap WrittenMarker.chars ++ trailing).head?, isBlank c = true
  /-- The description, if there is one. -/
  description : Option WrittenRemark

namespace WrittenField

variable (f : WrittenField)

/-- The characters between the name and the description. -/
def markerRun : List Char :=
  f.markers.flatMap WrittenMarker.chars ++ f.trailing

/-- The characters behind the name. -/
def tail : List Char :=
  f.markerRun ++ (f.description.map WrittenRemark.chars).getD []

/-- The characters of the line. -/
def chars : List Char :=
  f.type ++ (f.gap.chars ++ (f.name ++ f.tail))

/-- The parts of the line. -/
def parts : FieldParts where
  type := f.type
  name := f.name
  markers := f.markers.map WrittenMarker.marker
  description := f.description.map WrittenRemark.text

/-- One of the markers of the line is the given one, in any case of letters. -/
def IsMarked (marker : String) : Prop :=
  ∃ m ∈ f.markers, upper m.marker = marker.toList

instance (marker : String) : Decidable (f.IsMarked marker) :=
  inferInstanceAs (Decidable (∃ m ∈ f.markers, upper m.marker = marker.toList))

/-- The field of the line. -/
def field (unlinked : Cardinality) (id : Id) : Field where
  id := id
  name := cleanFieldName (String.ofList f.name)
  type := .ofToken (String.ofList f.type)
  isPrimary := f.IsMarked "PK"
  isForeign := f.IsMarked "FK"
  description := cleanRemark (f.description.map fun r => String.ofList r.text)
  reference := if f.IsMarked "FK" then some { cardinality := unlinked } else none

lemma exists_lead : ∃ c cs, f.type = c :: cs ∧ isLeadChar c = true := by
  obtain ⟨c, hc, hlead⟩ := f.lead
  obtain ⟨cs, htype⟩ := List.head?_eq_some_iff.mp hc
  refine ⟨c, cs, htype, ?_⟩
  rcases hlead with h | h <;> simp [isLeadChar, h]

/-- What follows the name cannot belong to it. -/
lemma head_tail : ∀ c ∈ f.tail.head?, isTokenChar c = false := by
  intro c hc
  rw [tail] at hc
  cases hmarkers : f.markerRun with
  | cons d ds =>
    rw [hmarkers] at hc
    obtain rfl := Option.some.inj hc
    refine isTokenChar_of_blank (f.spaced d ?_)
    rw [← markerRun, hmarkers]
    rfl
  | nil =>
    rw [hmarkers] at hc
    cases hdescription : f.description with
    | none => simp [hdescription] at hc
    | some r =>
      rw [hdescription] at hc
      obtain rfl := Option.some.inj hc
      decide

/-- The markers hold no quotes. -/
lemma isUnquoted_markerRun : IsUnquoted f.markerRun := by
  have hseparator : ∀ {c : Char}, isBlank c = true ∨ c = ',' → c ≠ '"' := by
    rintro c h rfl
    exact absurd h (by decide)
  intro c hc
  rcases List.mem_append.mp hc with hc | hc
  · obtain ⟨m, -, hc⟩ := List.mem_flatMap.mp hc
    rcases List.mem_append.mp hc with hc | hc
    · exact hseparator (m.separators c hc)
    · exact m.token.quote c hc
  · exact hseparator (f.separators c hc)

/-- The description and the characters before it are told apart. -/
lemma description?_tail :
    description? f.tail = (f.markerRun, f.description.map WrittenRemark.text) := by
  rw [tail]
  cases f.description with
  | none =>
    rw [Option.map_none, Option.getD_none, List.append_nil]
    exact description?_unquoted f.isUnquoted_markerRun
  | some r => exact description?_remark f.markerRun r

lemma name_ne_nil : f.name ≠ [] := by
  intro h
  have hnamed := f.named
  rw [h] at hnamed
  exact hnamed rfl

/-- The name starts with no blank. -/
lemma trimLeft_gap :
    trimLeft (f.gap.chars ++ (f.name ++ f.tail)) = f.name ++ f.tail := by
  obtain ⟨c, cs, hname⟩ := List.exists_cons_of_ne_nil f.name_ne_nil
  rw [f.gap.trimLeft_append, hname, List.cons_append]
  exact trimLeft_cons _ (f.nameToken.blank c (hname ▸ List.mem_cons_self))

/-- What follows the type starts with a blank. -/
lemma head_gap : ∀ c ∈ (f.gap.chars ++ (f.name ++ f.tail)).head?, isBlank c = true := by
  obtain ⟨c, cs, hgap⟩ := List.exists_cons_of_ne_nil f.apart
  intro d hd
  rw [hgap] at hd
  obtain rfl := Option.some.inj hd
  exact f.gap.blank c (hgap ▸ List.mem_cons_self)

/-- The parts of a line are read as they were written. -/
lemma field?_chars : field? f.chars = some f.parts := by
  obtain ⟨c, cs, htype, hlead⟩ := f.exists_lead
  have hmore : ∀ d ∈ cs, isTokenChar d = true := fun d hd =>
    f.typeToken.all d (htype ▸ List.mem_cons_of_mem c hd)
  obtain ⟨htake, hgap⟩ := span_append hmore fun d hd => isTokenChar_of_blank (f.head_gap d hd)
  obtain ⟨hname, htail⟩ := span_append f.nameToken.all f.head_tail
  obtain ⟨d, ds, hcons⟩ := List.exists_cons_of_ne_nil f.name_ne_nil
  have hwords : words isMarkerSeparator f.markerRun = f.markers.map WrittenMarker.marker :=
    words_flatMap f.markers f.separators
  rw [chars, htype, List.cons_append, field?, if_pos hlead]
  simp only [htake, hgap, f.trimLeft_gap, hname, htail, f.description?_tail, hwords]
  rw [parts, htype, hcons]

/-- A field line opens no block: behind the first name of the line comes all of the name of the
field, in which there is more than braces. -/
lemma blockOpening?_chars : blockOpening? f.chars = none := by
  obtain ⟨c, hc, hblank, hdelimiter⟩ := exists_not_delimiter f.nameToken f.named
  obtain ⟨initial, more, htype, hlead⟩ := f.exists_lead
  set rest := f.type.dropWhile isNameChar ++ (f.gap.chars ++ (f.name ++ f.tail)) with hrest
  have hsplit : f.chars = f.type.takeWhile isNameChar ++ rest := by
    rw [hrest, ← List.append_assoc, List.takeWhile_append_dropWhile, chars]
  have hne : f.type.takeWhile isNameChar ≠ [] := by
    rw [htype, List.takeWhile_cons_of_pos (isNameChar_iff.mpr (isPlainChar_of_lead hlead))]
    exact List.cons_ne_nil _ _
  have hhead : ∀ d ∈ rest.head?, isNameChar d = false := by
    intro d hd
    cases hdrop : f.type.dropWhile isNameChar with
    | nil =>
      rw [hrest, hdrop, List.nil_append] at hd
      exact isNameChar_of_blank (f.head_gap d hd)
    | cons e es =>
      rw [hrest, hdrop] at hd
      obtain rfl := Option.some.inj hd
      have hnot := List.head_dropWhile_not isNameChar (l := f.type) (by simp [hdrop])
      simpa [hdrop] using hnot
  have hname := name?_plain hne (fun d hd => List.all_eq_true.mp List.all_takeWhile d hd) hhead
  rw [← hsplit] at hname
  exact blockOpening?_eq_none_of_mem hname (by simp [hrest, hc]) hblank hdelimiter

/-- A field line is read as a field with its parts, and as nothing else. -/
lemma insideForm_chars : insideForm f.chars = .field f.parts := by
  have hlong : f.chars ≠ ['}'] := by
    obtain ⟨c, cs, htype, hlead⟩ := f.exists_lead
    intro h
    rw [chars, htype, List.cons_append] at h
    rw [(List.cons.inj h).1] at hlead
    exact absurd hlead (by decide)
  rw [insideForm, if_neg hlong, f.blockOpening?_chars, f.field?_chars]
  rfl

/-- A field line says something, and is no comment. -/
lemma isStatement_chars : f.chars.isEmpty = false ∧ isComment f.chars = false := by
  obtain ⟨c, cs, htype, hlead⟩ := f.exists_lead
  have hmarker : ∀ {m : Char}, isLeadChar m = false → (m == c) = false := by
    intro m hm
    refine beq_false_of_ne fun heq => ?_
    rw [heq, hlead] at hm
    exact absurd hm (by decide)
  rw [chars, htype, List.cons_append]
  refine ⟨rfl, ?_⟩
  rw [isComment, commentMarkers, List.any_cons, List.any_cons]
  change ('%' == c && _ || ('-' == c && _ || false)) = false
  rw [hmarker (by decide), hmarker (by decide)]
  rfl

/-- What is kept of the parts of a line is the field of the line. -/
lemma keptField_parts (unlinked : Cardinality) (id : Id) :
    keptField unlinked id f.parts = f.field unlinked id := by
  have hmarker : ∀ marker, f.parts.hasMarker marker = decide (f.IsMarked marker) := by
    intro marker
    rw [Bool.eq_iff_iff, decide_eq_true_iff, FieldParts.hasMarker, parts, List.any_map,
      List.any_eq_true]
    simp [IsMarked]
  simp only [keptField, hmarker, decide_eq_true_eq, field, cleanFieldName, String.toList_ofList]
  simp only [parts, Option.map_map]
  rfl

end WrittenField

/-! ## Reading -/

/-- **The grammar of field lines**: a type, a name that says something, any markers between blanks
and commas, and a description or none.  Such a line is a statement; inside a block it is read as the
field that was written, and it never closes the block or opens another.  Scanning it adds that field
to the entity, or passes over it with a warning if the entity has a field of that name already. -/
theorem reads_fieldLine (f : WrittenField) :
    insideForm f.chars = .field f.parts ∧
      (∀ n raw rest, trim raw = f.chars →
        numberedStatements n (raw :: rest) = (n, f.chars) :: numberedStatements (n + 1) rest) ∧
      ∀ unlinked (s : Scan) n block, (!s.headerSeen && isHeader f.chars) = false →
        s.current = some block →
        (s.step unlinked (n, f.chars)).current = some block ∧
        s.step unlinked (n, f.chars) =
          let name := cleanFieldName (String.ofList f.name)
          if ((s.entity? block.entity).bind (·.findFieldNamed? name)).isSome then
            s.warn (.duplicateField n name block.entity)
          else s.addField block.entity (f.field unlinked) := by
  refine ⟨f.insideForm_chars, fun n raw rest htrim => ?_, fun unlinked s n block hheader hopen => ?_⟩
  · obtain ⟨hne, hcomment⟩ := f.isStatement_chars
    exact numberedStatements_cons htrim hne hcomment n rest
  · have hname : String.ofList (fieldNameChars f.parts.name) = cleanFieldName (String.ofList f.name) := by
      rw [cleanFieldName, String.toList_ofList]
      rfl
    have hnamed : cleanFieldName (String.ofList f.name) ≠ "" := by
      rw [cleanFieldName, String.toList_ofList]
      exact fun h => f.named (String.ofList_eq_empty_iff.mp h)
    have hstep : s.step unlinked (n, f.chars) =
        let name := cleanFieldName (String.ofList f.name)
        if ((s.entity? block.entity).bind (·.findFieldNamed? name)).isSome then
          s.warn (.duplicateField n name block.entity)
        else s.addField block.entity (f.field unlinked) := by
      simp only [Scan.step, hheader, hopen, Scan.stepInside, f.insideForm_chars, Scan.stepField, hname,
        if_neg hnamed, f.keptField_parts, Bool.false_eq_true, if_false]
    refine ⟨?_, hstep⟩
    rw [hstep]
    dsimp only
    split_ifs
    · exact hopen
    · exact hopen

/-- A line with braces in its type and its name, a marker behind a comma, and a description that
holds the other marker and a brace. -/
def bracedField : WrittenField where
  type := ['a', '{', 'b']
  typeToken := by decide
  lead := ⟨'a', by decide, by decide⟩
  gap := .space
  apart := Blanks.space_ne_nil
  name := ['{', 'i', 'd', '|', '}']
  nameToken := by decide
  named := by decide
  markers :=
    [{ before := [' ', ','], separated := by decide, separators := by simp [isBlank]
       marker := ['p', 'K'], nonempty := by decide, token := by decide, comma := by simp }]
  trailing := []
  separators := by simp
  spaced := fun _ hc => Option.some.inj hc ▸ rfl
  description := some ⟨['F', 'K', ' ', '}'], by decide, .none⟩

/-- The line adds one field, and the block stays open. -/
theorem reads_bracedField :
    bracedField.chars = "a\x7bb \x7bid|\x7d ,pK\"FK \x7d\"".toList ∧
      insideForm bracedField.chars = .field bracedField.parts ∧
      let s : Scan := { headerSeen := true, entities := [{ id := ⟨"t"⟩, name := "T" }]
                        current := some ⟨"T", 2⟩, supply := .strokes }
      let s' := s.step .manyToOne (3, bracedField.chars)
      s'.current = some ⟨"T", 2⟩ ∧
        s'.entities.map (fun e => e.fields.map fun f =>
          (f.name, f.isPrimary, f.isForeign, f.description))
          = [[("id", true, false, some "FK \x7d")]] := by
  obtain ⟨hform, -, hstep⟩ := reads_fieldLine bracedField
  obtain ⟨hcurrent, heq⟩ := hstep .manyToOne
    { headerSeen := true, entities := [{ id := ⟨"t"⟩, name := "T" }], current := some ⟨"T", 2⟩
      supply := .strokes } 3 ⟨"T", 2⟩ rfl rfl
  refine ⟨by decide +kernel, hform, hcurrent, ?_⟩
  rw [heq]
  decide +kernel

end DiagramSync
