import TestDoubles.Dump.Basic
import TestDoubles.Proofs.Text.Quoted

/-!
# Dumps on one line

A dump is text on one line, and nothing of it is lost: the quotation marks, brackets and commas say where
everything in it ends. So two dumps that read the same are the same.

- `Dump.Legible` holds of dumps whose names are names.
- `Dump.Legible.printable`: all of the text is printable.
- `Dump.Legible.toldApart`: whatever follows it, the text determines the dump.
- `Dump.Legible.text_inj`: legible dumps that read the same are the same.
-/

namespace TestDoubles

namespace Dump

/-! ## Legible dumps -/

/-- A character of names and numbers. -/
def isNameChar (c : Char) : Bool :=
  c.isAlphanum || c = '_'

/-- Names and numbers. -/
def isName (text : String) : Bool :=
  text ≠ "" && text.toList.all isNameChar

/-- All words and names in a dump are names, and every record shows that it is one. -/
inductive Legible : Dump → Prop where
  | word {text : String} (hname : isName text) : Legible (.word text)
  | quoted (text : String) : Legible (.quoted text)
  | record {name : String} {fields : List (String × Dump)} {cut : Bool} (hname : isName name)
      (hnames : ∀ field ∈ fields, isName field.1) (hvalues : ∀ field ∈ fields, Legible field.2)
      (hshown : fields ≠ [] ∨ cut = true) : Legible (.record name fields cut)
  | applied {name : String} {items : List Dump} (hname : name = "" ∨ isName name)
      (hitems : ∀ item ∈ items, Legible item) : Legible (.applied name items)
  | list {items : List Dump} (hitems : ∀ item ∈ items, Legible item) : Legible (.list items)
  | table {entries : List (Dump × Dump)} (hkeys : ∀ entry ∈ entries, Legible entry.1)
      (hvalues : ∀ entry ∈ entries, Legible entry.2) : Legible (.table entries)

theorem isName_iff {text : String} :
    isName text ↔ text.toList ≠ [] ∧ ∀ c ∈ text.toList, isNameChar c := by
  simp [isName]

/-- A character between two printable characters of ASCII is printable. -/
theorem isPrintable_of_range {c first last : Char} (hfirst : 0x20 ≤ first.toNat)
    (hlast : last.toNat ≤ 0x7e) (hfrom : first.val ≤ c.val) (hto : c.val ≤ last.val) :
    Text.isPrintable c :=
  Text.isPrintable_of_ascii (Nat.le_trans hfirst (UInt32.le_iff_toNat_le.mp hfrom))
    (Nat.le_trans (UInt32.le_iff_toNat_le.mp hto) hlast)

theorem isPrintable_of_isNameChar {c : Char} (h : isNameChar c) : Text.isPrintable c := by
  rcases Bool.or_eq_true_iff.mp h with halphanum | hline
  · rcases Bool.or_eq_true_iff.mp halphanum with hletter | hdigit
    · rcases Bool.or_eq_true_iff.mp hletter with hupper | hlower
      · obtain ⟨hfrom, hto⟩ := of_decide_eq_true hupper
        exact isPrintable_of_range (by decide) (by decide) hfrom hto
      · obtain ⟨hfrom, hto⟩ := Bool.and_eq_true_iff.mp hlower
        exact isPrintable_of_range (by decide) (by decide) (of_decide_eq_true hfrom)
          (of_decide_eq_true hto)
    · obtain ⟨hfrom, hto⟩ := Bool.and_eq_true_iff.mp hdigit
      exact isPrintable_of_range (by decide) (by decide) (of_decide_eq_true hfrom)
        (of_decide_eq_true hto)
  · obtain rfl := of_decide_eq_true hline
    exact Text.isPrintable_of_ascii (by decide) (by decide)

/-! ## The text in parts -/

/-- The name in front. -/
def lead : Dump → String
  | .word text => text
  | .record name _ _ => name
  | .applied name _ => name
  | _ => ""

/-- Parts with commas between them. -/
def listed (parts : List (List Char)) : List Char :=
  [',', ' '].intercalate parts

/-- A field of a record. -/
def fieldPart (field : String × Dump) : List Char :=
  field.1.toList ++ ':' :: ' ' :: field.2.text.toList

/-- An entry of a table. -/
def entryPart (entry : Dump × Dump) : List Char :=
  entry.1.text.toList ++ ':' :: ' ' :: entry.2.text.toList

/-- The end of a record. -/
def closing (fields : List (String × Dump)) (cut : Bool) : List Char :=
  match fields, cut with
  | _, false => [' ', '\x7d']
  | [], true => ['.', '.', ' ', '\x7d']
  | _ :: _, true => [',', ' ', '.', '.', ' ', '\x7d']

/-- What comes after the name. -/
def body : Dump → List Char
  | .word _ => []
  | .quoted text => (Text.quoted text).toList
  | .record _ fields cut =>
    ' ' :: '\x7b' :: ' ' :: (listed (fields.map fieldPart) ++ closing fields cut)
  | .applied _ items => '(' :: (listed (items.map fun item => item.text.toList) ++ [')'])
  | .list items => '[' :: (listed (items.map fun item => item.text.toList) ++ [']'])
  | .table entries => '\x7b' :: (listed (entries.map entryPart) ++ ['\x7d'])

theorem texts_eq_map (items : List Dump) : texts items = items.map text := by
  induction items with
  | nil => rfl
  | cons item items ih => rw [texts, ih, List.map_cons]

theorem map_fieldTexts (fields : List (String × Dump)) :
    (fieldTexts fields).map String.toList = fields.map fieldPart := by
  induction fields with
  | nil => rfl
  | cons field fields ih =>
    obtain ⟨name, value⟩ := field
    rw [fieldTexts, List.map_cons, List.map_cons, ih]
    simp [fieldPart]

theorem map_entryTexts (entries : List (Dump × Dump)) :
    (entryTexts entries).map String.toList = entries.map entryPart := by
  induction entries with
  | nil => rfl
  | cons entry entries ih =>
    obtain ⟨key, value⟩ := entry
    rw [entryTexts, List.map_cons, List.map_cons, ih]
    simp [entryPart]

variable {d d' : Dump} {rest rest' : List Char}

theorem Legible.toList_text (h : d.Legible) : d.text.toList = d.lead.toList ++ d.body := by
  cases h with
  | word _ => simp [text, lead, body]
  | quoted text => simp [Dump.text, lead, body]
  | @record name fields cut _ _ _ hshown =>
    cases fields with
    | nil =>
      obtain rfl : cut = true := by simpa using hshown
      simp [text, lead, body, listed, closing]
    | cons field fields =>
      cases cut
      · simp [text, lead, body, listed, closing, String.toList_intercalate, map_fieldTexts]
      · simp [text, lead, body, listed, closing, String.toList_intercalate, map_fieldTexts]
  | @applied name items _ _ =>
    simp [text, lead, body, listed, String.toList_intercalate, texts_eq_map, Function.comp_def]
  | @list items _ =>
    simp [text, lead, body, listed, String.toList_intercalate, texts_eq_map, Function.comp_def]
  | @table entries _ _ =>
    simp [text, lead, body, listed, String.toList_intercalate, map_entryTexts]

/-! ## Where a dump begins and ends -/

/-- A dump in another one is followed by a mark, or by the end of a record. -/
inductive Ends : List Char → Prop where
  | mark {c : Char} {rest : List Char} (h : c ∈ [',', ')', ']', '\x7d', ':']) : Ends (c :: rest)
  | record {rest : List Char} : Ends (' ' :: '\x7d' :: rest)

/-- A part of a list begins with a name or with a mark. -/
inductive Begins : List Char → Prop where
  | name {c : Char} {rest : List Char} (h : isNameChar c) : Begins (c :: rest)
  | mark {c : Char} {rest : List Char} (h : c ∈ ['\"', '(', '[', '\x7b']) : Begins (c :: rest)

/-- A list is followed by something with which no part begins, and which does not go on to one. -/
inductive Closes : List Char → Prop where
  | mark {c : Char} {rest : List Char} (h : c ∈ [')', ']', '\x7d', '.', ' ']) : Closes (c :: rest)
  | cut {rest : List Char} : Closes (',' :: ' ' :: '.' :: rest)

theorem Begins.not_closes {part : List Char} (h : Begins part) : ¬Closes part := by
  have hname : ∀ c ∈ [')', ']', '\x7d', '.', ' '], !isNameChar c := List.all_eq_true.mp (by decide)
  have hopening : ∀ c ∈ [')', ']', '\x7d', '.', ' '], decide (c ∉ ['\"', '(', '[', '\x7b']) :=
    List.all_eq_true.mp (by decide)
  intro hcloses
  cases h with
  | name h =>
    cases hcloses with
    | mark hmark => exact absurd h (by simpa using hname _ hmark)
    | cut => exact absurd h (by decide)
  | mark h =>
    cases hcloses with
    | mark hmark => exact of_decide_eq_true (hopening _ hmark) h
    | cut => exact absurd h (by decide)

theorem Begins.separated_not_closes {part : List Char} (h : Begins part) :
    ¬Closes (',' :: ' ' :: part) := by
  intro hcloses
  cases hcloses with
  | mark hmark => exact absurd hmark (by decide)
  | cut =>
    cases h with
    | name h => exact absurd h (by decide)
    | mark h => exact absurd h (by decide)

theorem Begins.append {part : List Char} (h : Begins part) (rest : List Char) :
    Begins (part ++ rest) := by
  cases h with
  | name h => exact .name h
  | mark h => exact .mark h

theorem Ends.exists_cons (h : Ends rest) : ∃ c rest', rest = c :: rest' ∧ isNameChar c = false := by
  cases h with
  | @mark c rest' h =>
    have hmarks : ∀ c ∈ [',', ')', ']', '\x7d', ':'], !isNameChar c := List.all_eq_true.mp (by decide)
    exact ⟨c, rest', rfl, by simpa using hmarks c h⟩
  | record => exact ⟨_, _, rfl, by decide⟩

/-- After the name there is something that does not belong to it. -/
theorem Ends.body_append (h : Ends rest) (d : Dump) :
    ∃ c rest', d.body ++ rest = c :: rest' ∧ isNameChar c = false := by
  cases d with
  | word _ => exact h.exists_cons
  | quoted text => exact ⟨_, _, by rw [body, Text.toList_quoted]; rfl, by decide⟩
  | record _ _ _ => exact ⟨_, _, rfl, by decide⟩
  | applied _ _ => exact ⟨_, _, rfl, by decide⟩
  | list _ => exact ⟨_, _, rfl, by decide⟩
  | table _ => exact ⟨_, _, rfl, by decide⟩

theorem begins_of_isName {name : String} (h : isName name) : Begins name.toList := by
  obtain ⟨hne, hall⟩ := isName_iff.mp h
  obtain ⟨c, rest, hname⟩ := List.exists_cons_of_ne_nil hne
  rw [hname]
  exact .name (hall c (hname ▸ List.mem_cons_self))

theorem Legible.begins_text (h : d.Legible) : Begins d.text.toList := by
  rw [h.toList_text]
  cases h with
  | word h => exact (begins_of_isName h).append _
  | quoted text =>
    rw [body, Text.toList_quoted]
    exact .mark (by decide)
  | record h _ _ _ => exact (begins_of_isName h).append _
  | applied h _ =>
    rcases h with rfl | h
    · exact .mark (by decide)
    · exact (begins_of_isName h).append _
  | list _ => exact .mark (by decide)
  | table _ _ => exact .mark (by decide)

theorem Legible.isNameChar_lead (h : d.Legible) : ∀ c ∈ d.lead.toList, isNameChar c := by
  cases h with
  | word h => exact (isName_iff.mp h).2
  | quoted _ => simp [lead]
  | record h _ _ _ => exact (isName_iff.mp h).2
  | applied h _ =>
    rcases h with rfl | h
    · simp [lead]
    · exact (isName_iff.mp h).2
  | list _ => simp [lead]
  | table _ _ => simp [lead]

/-! ## Lists of parts -/

section Listed

variable {α : Type}

/-- The parts of both items are the same only where the items are, with whatever they may be followed
by. -/
def ToldApart (part : α → List Char) (item item' : α) : Prop :=
  ∀ rest rest', Ends rest → Ends rest' → part item ++ rest = part item' ++ rest' →
    item = item' ∧ rest = rest'

variable {part : α → List Char} {items items' : List α}

theorem listed_cons (first : List Char) (parts : List (List Char)) :
    listed (first :: parts) = first ++ parts.flatMap ([',', ' '] ++ ·) := by
  unfold listed
  induction parts generalizing first with
  | nil => simp
  | cons next parts ih =>
    rw [List.intercalate_cons_cons, ih]
    simp

/-- What comes after a part of a list ends that part. -/
theorem ends_flatMap (hends : Ends rest) (parts : List (List Char)) :
    Ends (parts.flatMap ([',', ' '] ++ ·) ++ rest) := by
  cases parts with
  | nil => exact hends
  | cons part parts => exact .mark (by decide)

/-- The items after the first one are told apart one by one; by induction on them. -/
theorem flatMap_append_inj (hbegins : ∀ item ∈ items, Begins (part item))
    (hbegins' : ∀ item ∈ items', Begins (part item))
    (hinj : ∀ item ∈ items, ∀ item' ∈ items', ToldApart part item item')
    (hcloses : Closes rest) (hcloses' : Closes rest') (hends : Ends rest) (hends' : Ends rest')
    (h : (items.map part).flatMap ([',', ' '] ++ ·) ++ rest =
      (items'.map part).flatMap ([',', ' '] ++ ·) ++ rest') :
    items = items' ∧ rest = rest' := by
  induction items generalizing items' with
  | nil =>
    cases items' with
    | nil => exact ⟨rfl, h⟩
    | cons item' items' =>
      -- The one list is over where the other goes on.
      rw [show rest = ',' :: ' ' :: _ by simpa using h] at hcloses
      exact absurd hcloses ((hbegins' item' List.mem_cons_self).append _).separated_not_closes
  | cons item items ih =>
    cases items' with
    | nil =>
      rw [show rest' = ',' :: ' ' :: _ by simpa using h.symm] at hcloses'
      exact absurd hcloses' ((hbegins item List.mem_cons_self).append _).separated_not_closes
    | cons item' items' =>
      simp only [List.map_cons, List.flatMap_cons, List.cons_append, List.nil_append,
        List.append_assoc, List.cons.injEq, true_and] at h
      obtain ⟨rfl, hlater⟩ := hinj item List.mem_cons_self item' List.mem_cons_self _ _
        (ends_flatMap hends _) (ends_flatMap hends' _) h
      obtain ⟨rfl, hrest⟩ := ih (List.forall_mem_cons.mp hbegins).2 (List.forall_mem_cons.mp hbegins').2
        (fun i hi i' hi' => hinj i (List.mem_cons_of_mem _ hi) i' (List.mem_cons_of_mem _ hi')) hlater
      exact ⟨rfl, hrest⟩

/-- **The items of a list are told apart**, and its end is found. -/
theorem listed_append_inj (hbegins : ∀ item ∈ items, Begins (part item))
    (hbegins' : ∀ item ∈ items', Begins (part item))
    (hinj : ∀ item ∈ items, ∀ item' ∈ items', ToldApart part item item')
    (hcloses : Closes rest) (hcloses' : Closes rest') (hends : items ≠ [] → Ends rest)
    (hends' : items' ≠ [] → Ends rest')
    (h : listed (items.map part) ++ rest = listed (items'.map part) ++ rest') :
    items = items' ∧ rest = rest' := by
  cases items with
  | nil =>
    cases items' with
    | nil => exact ⟨rfl, h⟩
    | cons item' items' =>
      -- What comes after an empty list does not begin like a part.
      rw [List.map_cons, listed_cons, List.append_assoc] at h
      have hpart := (hbegins' item' List.mem_cons_self).append
        ((items'.map part).flatMap ([',', ' '] ++ ·) ++ rest')
      rw [← h] at hpart
      exact absurd hcloses hpart.not_closes
  | cons item items =>
    cases items' with
    | nil =>
      rw [List.map_cons, listed_cons, List.append_assoc] at h
      have hpart := (hbegins item List.mem_cons_self).append
        ((items.map part).flatMap ([',', ' '] ++ ·) ++ rest)
      rw [h] at hpart
      exact absurd hcloses' hpart.not_closes
    | cons item' items' =>
      have hafter : Ends rest := hends (List.cons_ne_nil _ _)
      have hafter' : Ends rest' := hends' (List.cons_ne_nil _ _)
      rw [List.map_cons, List.map_cons, listed_cons, listed_cons, List.append_assoc,
        List.append_assoc] at h
      obtain ⟨rfl, hlater⟩ := hinj item List.mem_cons_self item' List.mem_cons_self _ _
        (ends_flatMap hafter _) (ends_flatMap hafter' _) h
      obtain ⟨rfl, hrest⟩ := flatMap_append_inj (List.forall_mem_cons.mp hbegins).2
        (List.forall_mem_cons.mp hbegins').2
        (fun i hi i' hi' => hinj i (List.mem_cons_of_mem _ hi) i' (List.mem_cons_of_mem _ hi'))
        hcloses hcloses' hafter hafter' hlater
      exact ⟨rfl, hrest⟩

end Listed

/-! ## Dumps are told apart -/

/-- The kinds of dumps. -/
inductive Shape where
  | word
  | quoted
  | record
  | applied
  | list
  | table

/-- The kind of a dump. -/
def shape : Dump → Shape
  | .word _ => .word
  | .quoted _ => .quoted
  | .record _ _ _ => .record
  | .applied _ _ => .applied
  | .list _ => .list
  | .table _ => .table

/-- A dump that is nothing but its name is a word. -/
theorem Ends.shape_eq_word (h : Ends rest) (hsame : rest = d.body ++ rest') : d.shape = .word := by
  subst hsame
  cases d with
  | word _ => rfl
  | quoted text =>
    rw [body, Text.toList_quoted] at h
    cases h with
    | mark h => exact absurd h (by decide)
  | record _ _ _ =>
    cases h with
    | mark h => exact absurd h (by decide)
  | applied _ _ =>
    cases h with
    | mark h => exact absurd h (by decide)
  | list _ =>
    cases h with
    | mark h => exact absurd h (by decide)
  | table _ =>
    cases h with
    | mark h => exact absurd h (by decide)

/-- What comes after the name shows of which kind a dump is. -/
theorem shape_eq (hrest : Ends rest) (hrest' : Ends rest') (h : d.body ++ rest = d'.body ++ rest') :
    d.shape = d'.shape := by
  cases d with
  | word _ => exact (hrest.shape_eq_word h).symm
  | quoted text =>
    cases d' with
    | word _ => exact hrest'.shape_eq_word h.symm
    | quoted _ => rfl
    | _ => simp [body, Text.toList_quoted] at h
  | record _ _ _ =>
    cases d' with
    | word _ => exact hrest'.shape_eq_word h.symm
    | record _ _ _ => rfl
    | _ => simp [body, Text.toList_quoted] at h
  | applied _ _ =>
    cases d' with
    | word _ => exact hrest'.shape_eq_word h.symm
    | applied _ _ => rfl
    | _ => simp [body, Text.toList_quoted] at h
  | list _ =>
    cases d' with
    | word _ => exact hrest'.shape_eq_word h.symm
    | list _ => rfl
    | _ => simp [body, Text.toList_quoted] at h
  | table _ =>
    cases d' with
    | word _ => exact hrest'.shape_eq_word h.symm
    | table _ => rfl
    | _ => simp [body, Text.toList_quoted] at h

/-- A dump is told apart by its name, its kind and what comes after the name. -/
theorem Legible.toldApart_of_parts (h : d.Legible) (h' : d'.Legible)
    (hparts : ∀ {rest rest'}, Ends rest → Ends rest' → d.lead = d'.lead → d.shape = d'.shape →
      d.body ++ rest = d'.body ++ rest' → d = d' ∧ rest = rest') :
    ToldApart (fun d : Dump => d.text.toList) d d' := by
  intro rest rest' hrest hrest' hsame
  obtain ⟨c, after, hbody, hc⟩ := hrest.body_append d
  obtain ⟨c', after', hbody', hc'⟩ := hrest'.body_append d'
  dsimp only at hsame
  -- The names end where a character comes that does not belong to names.
  rw [h.toList_text, h'.toList_text, List.append_assoc, List.append_assoc, hbody, hbody'] at hsame
  obtain ⟨hlead, hafter⟩ :=
    Text.append_cons_inj h.isNameChar_lead h'.isNameChar_lead hc hc' hsame
  rw [← hbody, ← hbody'] at hafter
  exact hparts hrest hrest' (String.toList_inj.mp hlead) (shape_eq hrest hrest' hafter) hafter

theorem toldApart_entry {key key' value value' : Dump}
    (hkey : ToldApart (fun d : Dump => d.text.toList) key key')
    (hvalue : ToldApart (fun d : Dump => d.text.toList) value value') :
    ToldApart entryPart (key, value) (key', value') := by
  intro rest rest' hrest hrest' hsame
  simp only [entryPart, List.append_assoc, List.cons_append] at hsame
  obtain ⟨rfl, hlater⟩ := hkey _ _ (.mark (by decide)) (.mark (by decide)) hsame
  obtain ⟨rfl, hafter⟩ := hvalue _ _ hrest hrest' (List.cons.inj (List.cons.inj hlater).2).2
  exact ⟨rfl, hafter⟩

theorem toldApart_field {name name' : String} {value value' : Dump} (hname : isName name)
    (hname' : isName name') (hvalue : ToldApart (fun d : Dump => d.text.toList) value value') :
    ToldApart fieldPart (name, value) (name', value') := by
  intro rest rest' hrest hrest' hsame
  -- The name ends at the colon, and from there on it is as for an entry of a table.
  simp only [fieldPart, List.append_assoc, List.cons_append] at hsame
  obtain ⟨hnames, hlater⟩ := Text.append_cons_inj (isName_iff.mp hname).2 (isName_iff.mp hname').2
    (by decide) (by decide) hsame
  obtain rfl := String.toList_inj.mp hnames
  obtain ⟨rfl, hafter⟩ := hvalue _ _ hrest hrest' (List.cons.inj (List.cons.inj hlater).2).2
  exact ⟨rfl, hafter⟩

/-- The end of a record shows whether something is left out. -/
theorem closing_append_inj {fields : List (String × Dump)} {cut cut' : Bool}
    (h : closing fields cut ++ rest = closing fields cut' ++ rest') : cut = cut' ∧ rest = rest' := by
  cases fields <;> cases cut <;> cases cut' <;> simp_all [closing]

theorem closes_closing (fields : List (String × Dump)) (cut : Bool) (rest : List Char) :
    Closes (closing fields cut ++ rest) := by
  cases cut with
  | false => exact .mark (by decide)
  | true =>
    cases fields with
    | nil => exact .mark (by decide)
    | cons _ _ => exact .cut

theorem ends_closing {fields : List (String × Dump)} (hne : fields ≠ []) (cut : Bool)
    (rest : List Char) : Ends (closing fields cut ++ rest) := by
  cases cut with
  | false => exact .record
  | true =>
    cases fields with
    | nil => exact absurd rfl hne
    | cons _ _ => exact .mark (by decide)

/-- A list that ends with a bracket. -/
theorem bracketed_append_inj {α : Type} {part : α → List Char} {items items' : List α} {c : Char}
    (hc : c ∈ [')', ']', '\x7d']) (hbegins : ∀ item ∈ items, Begins (part item))
    (hbegins' : ∀ item ∈ items', Begins (part item))
    (hinj : ∀ item ∈ items, ∀ item' ∈ items', ToldApart part item item')
    (h : listed (items.map part) ++ [c] ++ rest = listed (items'.map part) ++ [c] ++ rest') :
    items = items' ∧ rest = rest' := by
  have hcloses : c ∈ [')', ']', '\x7d', '.', ' '] := List.mem_append_left ['.', ' '] hc
  have hends : c ∈ [',', ')', ']', '\x7d', ':'] :=
    List.mem_cons_of_mem ',' (List.mem_append_left [':'] hc)
  rw [List.append_assoc, List.append_assoc] at h
  obtain ⟨hitems, hafter⟩ := listed_append_inj hbegins hbegins' hinj (.mark hcloses) (.mark hcloses)
    (fun _ => .mark hends) (fun _ => .mark hends) h
  exact ⟨hitems, (List.cons.inj hafter).2⟩

/-- **A legible dump is told apart from every other one**, whatever follows them; by induction on the
dump. -/
theorem Legible.toldApart (h : d.Legible) (h' : d'.Legible) :
    ToldApart (fun d : Dump => d.text.toList) d d' := by
  induction h generalizing d' with
  | @word text hname =>
    refine (Legible.word hname).toldApart_of_parts h' fun _ _ hlead hshape hbody => ?_
    cases h' with
    | word _ => exact ⟨congrArg Dump.word hlead, hbody⟩
    | _ => cases hshape
  | quoted text =>
    refine (Legible.quoted text).toldApart_of_parts h' fun _ _ _ hshape hbody => ?_
    cases h' with
    | quoted text' =>
      obtain ⟨rfl, hrest⟩ := Text.quoted_append_inj hbody
      exact ⟨rfl, hrest⟩
    | _ => cases hshape
  | @record name fields cut hname hnames hvalues hshown ih =>
    refine (Legible.record hname hnames hvalues hshown).toldApart_of_parts h'
      fun _ _ hlead hshape hbody => ?_
    cases h' with
    | @record name' fields' cut' _ hnames' hvalues' _ =>
      -- Without fields a record ends with dots, which close a list but do not end a part.
      simp only [body, List.cons_append, List.append_assoc, List.cons.injEq, true_and] at hbody
      obtain ⟨rfl, hclosing⟩ := listed_append_inj
        (fun field hfield => (begins_of_isName (hnames field hfield)).append _)
        (fun field hfield => (begins_of_isName (hnames' field hfield)).append _)
        (fun field hfield field' hfield' => toldApart_field (hnames field hfield)
          (hnames' field' hfield') (ih field hfield (hvalues' field' hfield')))
        (closes_closing fields cut _) (closes_closing fields' cut' _)
        (fun hne => ends_closing hne cut _) (fun hne => ends_closing hne cut' _) hbody
      obtain ⟨rfl, hrest⟩ := closing_append_inj hclosing
      obtain rfl : name = name' := hlead
      exact ⟨rfl, hrest⟩
    | _ => cases hshape
  | @applied name items hname hitems ih =>
    refine (Legible.applied hname hitems).toldApart_of_parts h' fun _ _ hlead hshape hbody => ?_
    cases h' with
    | @applied name' items' _ hitems' =>
      obtain ⟨rfl, hrest⟩ := bracketed_append_inj (by decide)
        (fun item hitem => (hitems item hitem).begins_text)
        (fun item hitem => (hitems' item hitem).begins_text)
        (fun item hitem item' hitem' => ih item hitem (hitems' item' hitem')) (List.cons.inj hbody).2
      obtain rfl : name = name' := hlead
      exact ⟨rfl, hrest⟩
    | _ => cases hshape
  | @list items hitems ih =>
    refine (Legible.list hitems).toldApart_of_parts h' fun _ _ _ hshape hbody => ?_
    cases h' with
    | @list items' hitems' =>
      obtain ⟨rfl, hrest⟩ := bracketed_append_inj (by decide)
        (fun item hitem => (hitems item hitem).begins_text)
        (fun item hitem => (hitems' item hitem).begins_text)
        (fun item hitem item' hitem' => ih item hitem (hitems' item' hitem')) (List.cons.inj hbody).2
      exact ⟨rfl, hrest⟩
    | _ => cases hshape
  | @table entries hkeys hvalues ihkeys ihvalues =>
    refine (Legible.table hkeys hvalues).toldApart_of_parts h' fun _ _ _ hshape hbody => ?_
    cases h' with
    | @table entries' hkeys' hvalues' =>
      obtain ⟨rfl, hrest⟩ := bracketed_append_inj (by decide)
        (fun entry hentry => (hkeys entry hentry).begins_text.append _)
        (fun entry hentry => (hkeys' entry hentry).begins_text.append _)
        (fun entry hentry entry' hentry' => toldApart_entry
          (ihkeys entry hentry (hkeys' entry' hentry'))
          (ihvalues entry hentry (hvalues' entry' hentry'))) (List.cons.inj hbody).2
      exact ⟨rfl, hrest⟩
    | _ => cases hshape

/-- **Dumps that read the same are the same.** -/
theorem Legible.text_inj (h : d.Legible) (h' : d'.Legible) (hsame : d.text = d'.text) : d = d' :=
  (h.toldApart h' [')'] [')'] (.mark (by decide)) (.mark (by decide))
    (congrArg (·.toList ++ [')']) hsame)).1

/-! ## Dumps are printable -/

/-- All characters of a text can be printed as they are. -/
def AllPrintable (text : List Char) : Prop :=
  ∀ c ∈ text, Text.isPrintable c

theorem allPrintable_of_ascii {text : List Char}
    (h : text.all fun c => 0x20 ≤ c.toNat ∧ c.toNat ≤ 0x7e) : AllPrintable text := by
  intro c hc
  obtain ⟨hfirst, hlast⟩ := of_decide_eq_true (List.all_eq_true.mp h c hc)
  exact Text.isPrintable_of_ascii hfirst hlast

theorem allPrintable_of_isName {name : String} (h : isName name) : AllPrintable name.toList :=
  fun c hc => isPrintable_of_isNameChar ((isName_iff.mp h).2 c hc)

theorem allPrintable_append {text text' : List Char} :
    AllPrintable (text ++ text') ↔ AllPrintable text ∧ AllPrintable text' :=
  List.forall_mem_append

/-- Between the parts of a list there are commas and spaces. -/
theorem allPrintable_listed {parts : List (List Char)} (h : ∀ part ∈ parts, AllPrintable part) :
    AllPrintable (listed parts) := by
  cases parts with
  | nil => exact fun _ hc => by cases hc
  | cons first parts =>
    obtain ⟨hfirst, hparts⟩ := List.forall_mem_cons.mp h
    rw [listed_cons, allPrintable_append]
    refine ⟨hfirst, fun c hc => ?_⟩
    obtain ⟨part, hpart, hmem⟩ := List.mem_flatMap.mp hc
    rcases List.mem_append.mp hmem with hseparator | hinside
    · have hmarks : AllPrintable [',', ' '] := allPrintable_of_ascii (by decide)
      exact hmarks c hseparator
    · exact hparts part hpart c hinside

/-- A name or a key, and what belongs to it. -/
theorem allPrintable_labelled {label value : List Char} (hlabel : AllPrintable label)
    (hvalue : AllPrintable value) : AllPrintable (label ++ ':' :: ' ' :: value) := by
  have hmarks : AllPrintable [':', ' '] := allPrintable_of_ascii (by decide)
  exact allPrintable_append.mpr ⟨hlabel, allPrintable_append.mpr ⟨hmarks, hvalue⟩⟩

theorem allPrintable_bracketed (opening : List Char) {parts : List (List Char)} {closing : List Char}
    (hopening : AllPrintable opening) (hparts : ∀ part ∈ parts, AllPrintable part)
    (hclosing : AllPrintable closing) : AllPrintable (opening ++ (listed parts ++ closing)) :=
  allPrintable_append.mpr ⟨hopening, allPrintable_append.mpr ⟨allPrintable_listed hparts, hclosing⟩⟩

theorem allPrintable_closing (fields : List (String × Dump)) (cut : Bool) :
    AllPrintable (closing fields cut) := by
  unfold closing
  split <;> exact allPrintable_of_ascii (by decide)

theorem Legible.printable_of_body (h : d.Legible) (hbody : AllPrintable d.body) :
    AllPrintable d.text.toList := by
  rw [h.toList_text, allPrintable_append]
  exact ⟨fun c hc => isPrintable_of_isNameChar (h.isNameChar_lead c hc), hbody⟩

/-- **All of a dump is printable**, so it stays on its line; by induction on the dump. -/
theorem Legible.printable (h : d.Legible) : AllPrintable d.text.toList := by
  induction h with
  | word hname => exact (Legible.word hname).printable_of_body fun _ hc => by cases hc
  | quoted text => exact (Legible.quoted text).printable_of_body (Text.isPrintable_quoted text)
  | @record name fields cut hname hnames hvalues hshown ih =>
    refine (Legible.record hname hnames hvalues hshown).printable_of_body ?_
    refine allPrintable_bracketed [' ', '\x7b', ' '] (allPrintable_of_ascii (by decide))
      (List.forall_mem_map.mpr fun field hfield => ?_) (allPrintable_closing fields cut)
    exact allPrintable_labelled (allPrintable_of_isName (hnames field hfield)) (ih field hfield)
  | applied hname hitems ih =>
    refine (Legible.applied hname hitems).printable_of_body ?_
    exact allPrintable_bracketed ['('] (allPrintable_of_ascii (by decide))
      (List.forall_mem_map.mpr ih) (allPrintable_of_ascii (by decide))
  | list hitems ih =>
    refine (Legible.list hitems).printable_of_body ?_
    exact allPrintable_bracketed ['['] (allPrintable_of_ascii (by decide))
      (List.forall_mem_map.mpr ih) (allPrintable_of_ascii (by decide))
  | table hkeys hvalues ihkeys ihvalues =>
    refine (Legible.table hkeys hvalues).printable_of_body ?_
    refine allPrintable_bracketed ['\x7b'] (allPrintable_of_ascii (by decide))
      (List.forall_mem_map.mpr fun entry hentry => ?_) (allPrintable_of_ascii (by decide))
    exact allPrintable_labelled (ihkeys entry hentry) (ihvalues entry hentry)

end Dump

end TestDoubles
