import ObjectStorage.Proofs.Json.Literal

/-!
# Documents are read back

`Json.parse_toText` says that the text of a value is read as that value, when its
literals are ones that are taken off a text as they are (`Json.Written`). The
parser is followed through a value by induction on how it was made: a value needs
no more fuel than its text has characters.
-/

namespace ObjectStorage.Json

/-- Says that every literal in a value is taken off a text as it is. -/
inductive Written : Json → Prop where
  | null : Written .null
  | bool (value : Bool) : Written (.bool value)
  | number {literal : List Char} (h : IsNumber literal) : Written (.number literal)
  | string {literal : List Char} (h : IsString literal) : Written (.string literal)
  | array {items : List Json} (h : ∀ item ∈ items, Written item) : Written (.array items)
  | object {fields : List (List Char × Json)} (hkeys : ∀ field ∈ fields, IsString field.1)
      (hvalues : ∀ field ∈ fields, Written field.2) : Written (.object fields)

variable {value : Json} {items : List Json} {fields : List (List Char × Json)} {fuel : Nat}

/-- Says that a value is read off a text that ends behind it. -/
def Parses (value : Json) : Prop :=
  ∀ fuel rest, value.render.length ≤ fuel → EndsValue rest →
    parseValue fuel (value.render ++ rest) = some (value, rest)

/-- A comma or the end of an array or an object ends a value. -/
theorem endsValue_cons {c : Char} (h : c = ',' ∨ c = ']' ∨ c = '\x7d') (rest : List Char) :
    EndsValue (c :: rest) := by
  rintro d ⟨⟩
  exact h

theorem skipBlanks_cons {c : Char} (h : isBlank c = false) (rest : List Char) :
    skipBlanks (c :: rest) = c :: rest := by
  simp [skipBlanks, h]

/-- The sign or the digit that a number starts with is no other sign of the syntax. -/
theorem number_head {c : Char} (h : c = '-' ∨ c.isDigit = true) :
    isBlank c = false ∧ c ∉ [']', 'n', 't', 'f', '"', '[', '\x7b'] := by
  rcases h with rfl | h
  · decide
  · refine ⟨?_, ?_⟩
    · simp only [isBlank, Bool.or_eq_false_iff, beq_eq_false_iff_ne]
      refine ⟨⟨⟨?_, ?_⟩, ?_⟩, ?_⟩ <;> rintro rfl <;> cases h
    · intro hmem
      simp only [List.mem_cons, List.not_mem_nil, or_false] at hmem
      rcases hmem with rfl | rfl | rfl | rfl | rfl | rfl | rfl <;> cases h

/-- The text of a value starts neither with a blank nor with the end of an array. -/
theorem Written.exists_render (h : value.Written) :
    ∃ c rest, value.render = c :: rest ∧ isBlank c = false ∧ c ≠ ']' := by
  cases h with
  | null => exact ⟨'n', _, rfl, by decide, by decide⟩
  | bool value =>
    cases value with
    | false => exact ⟨'f', _, rfl, by decide, by decide⟩
    | true => exact ⟨'t', _, rfl, by decide, by decide⟩
  | number h =>
    obtain ⟨c, rest, rfl, hc⟩ := h.head
    obtain ⟨hblank, hsign⟩ := number_head hc
    exact ⟨c, rest, by rw [render], hblank, fun hend => hsign (hend ▸ .head _)⟩
  | string h => exact ⟨'"', _, by rw [render, renderString, List.cons_append], by decide, by decide⟩
  | array h => exact ⟨'[', _, by rw [render, List.cons_append], by decide, by decide⟩
  | object hkeys hvalues =>
    exact ⟨'\x7b', _, by rw [render, List.cons_append], by decide, by decide⟩

/-- There are no blanks in front of the text of a value. -/
theorem Written.skipBlanks (h : value.Written) (rest : List Char) :
    skipBlanks (value.render ++ rest) = value.render ++ rest := by
  obtain ⟨c, others, hrender, hc, -⟩ := h.exists_render
  rw [hrender, List.cons_append, skipBlanks_cons hc]

/-- A comma stands behind an item that is not the last. -/
theorem renderItems_cons (item : Json) (hne : items ≠ []) :
    renderItems (item :: items) = item.render ++ ',' :: renderItems items := by
  rw [renderItems]
  exact hne

/-- A comma stands behind a field that is not the last. -/
theorem renderFields_cons (key : List Char) (value : Json) (hne : fields ≠ []) :
    renderFields ((key, value) :: fields) =
      renderString key ++ ':' :: value.render ++ ',' :: renderFields fields := by
  rw [renderFields]
  exact hne

/-- The items of an array start as its first item does. -/
theorem exists_renderItems {item : Json} (h : item.Written) (others : List Json) :
    ∃ c rest, renderItems (item :: others) = c :: rest ∧ isBlank c = false ∧ c ≠ ']' := by
  obtain ⟨c, rest, hrender, hc⟩ := h.exists_render
  cases others with
  | nil => exact ⟨c, rest, by rw [renderItems, hrender], hc⟩
  | cons next others =>
    refine ⟨c, rest ++ ',' :: renderItems (next :: others), ?_, hc⟩
    rw [renderItems_cons item (List.cons_ne_nil _ _), hrender, List.cons_append]

/-- The fields of an object start with the quote of a key. -/
theorem exists_renderFields (field : List Char × Json) (others : List (List Char × Json)) :
    ∃ rest, renderFields (field :: others) = '"' :: rest := by
  obtain ⟨key, value⟩ := field
  cases others with
  | nil => exact ⟨key ++ ['"'] ++ ':' :: value.render, by simp [renderFields, renderString]⟩
  | cons next others =>
    refine ⟨key ++ ['"'] ++ ':' :: value.render ++ ',' :: renderFields (next :: others), ?_⟩
    simp [renderFields_cons key value (List.cons_ne_nil next others), renderString]

/-- Items that are read one by one are read as the items of an array. -/
theorem parseItems_renderItems (hne : items ≠ []) (hwritten : ∀ item ∈ items, item.Written)
    (hparses : ∀ item ∈ items, item.Parses) (hfuel : (renderItems items).length < fuel)
    (rest : List Char) :
    parseItems fuel (renderItems items ++ ']' :: rest) = some (items, rest) := by
  induction items generalizing fuel with
  | nil => exact (hne rfl).elim
  | cons item others ih =>
    obtain ⟨hitem, hothers⟩ := List.forall_mem_cons.1 hwritten
    obtain ⟨hread, hreadOthers⟩ := List.forall_mem_cons.1 hparses
    cases fuel with
    | zero => exact (Nat.not_lt_zero _ hfuel).elim
    | succ fuel =>
      cases others with
      | nil =>
        rw [renderItems] at hfuel ⊢
        have hend : EndsValue (']' :: rest) := endsValue_cons (.inr (.inl rfl)) rest
        rw [parseItems, hitem.skipBlanks, hread fuel _ (by omega) hend]
        rfl
      | cons next others =>
        rw [renderItems_cons item (List.cons_ne_nil _ _)] at hfuel ⊢
        simp only [List.length_append, List.length_cons] at hfuel
        rw [List.append_assoc, List.cons_append, parseItems, hitem.skipBlanks,
          hread fuel _ (by omega) (endsValue_cons (.inl rfl) _)]
        show (parseItems fuel (renderItems (next :: others) ++ ']' :: rest)).map _ = _
        rw [ih (List.cons_ne_nil _ _) hothers hreadOthers (by omega), Option.map_some]

/-- Fields whose values are read one by one are read as the fields of an object. -/
theorem parseFields_renderFields (hne : fields ≠ []) (hkeys : ∀ field ∈ fields, IsString field.1)
    (hwritten : ∀ field ∈ fields, field.2.Written) (hparses : ∀ field ∈ fields, field.2.Parses)
    (hfuel : (renderFields fields).length < fuel) (rest : List Char) :
    parseFields fuel (renderFields fields ++ '\x7d' :: rest) = some (fields, rest) := by
  induction fields generalizing fuel with
  | nil => exact (hne rfl).elim
  | cons field others ih =>
    obtain ⟨key, value⟩ := field
    obtain ⟨hkey, hkeysOthers⟩ := List.forall_mem_cons.1 hkeys
    obtain ⟨hvalue, hothers⟩ := List.forall_mem_cons.1 hwritten
    obtain ⟨hread, hreadOthers⟩ := List.forall_mem_cons.1 hparses
    dsimp only at hkey hvalue hread
    have hquote (text : List Char) : Json.skipBlanks ('"' :: text) = '"' :: text :=
      skipBlanks_cons (by decide) text
    have hcolon (text : List Char) : Json.skipBlanks (':' :: text) = ':' :: text :=
      skipBlanks_cons (by decide) text
    cases fuel with
    | zero => exact (Nat.not_lt_zero _ hfuel).elim
    | succ fuel =>
      cases others with
      | nil =>
        rw [renderFields] at hfuel ⊢
        simp only [List.length_append, List.length_cons] at hfuel
        have hend : EndsValue ('\x7d' :: rest) := endsValue_cons (.inr (.inr rfl)) rest
        simp only [renderString, List.append_assoc, List.cons_append, List.nil_append, parseFields,
          hquote, hkey _, hcolon, hvalue.skipBlanks, hread fuel _ (by omega) hend]
        rfl
      | cons next others =>
        rw [renderFields_cons key value (List.cons_ne_nil _ _)] at hfuel ⊢
        simp only [List.length_append, List.length_cons] at hfuel
        simp only [renderString, List.append_assoc, List.cons_append, List.nil_append, parseFields,
          hquote, hkey _, hcolon, hvalue.skipBlanks,
          hread fuel _ (by omega) (endsValue_cons (.inl rfl) _)]
        show (parseFields fuel (renderFields (next :: others) ++ '\x7d' :: rest)).map _ = _
        rw [ih (List.cons_ne_nil _ _) hkeysOthers hothers hreadOthers (by omega), Option.map_some]

/-- A number is read off its text by the branch that no other sign of the syntax leads to. -/
theorem parseValue_number {c : Char} (h : c = '-' ∨ c.isDigit = true) (rest : List Char) :
    parseValue (fuel + 1) (c :: rest) =
      (scanNumber (c :: rest)).map fun (literal, rest) => (number literal, rest) := by
  obtain ⟨-, hsign⟩ := number_head h
  simp only [List.mem_cons, not_or] at hsign
  rw [parseValue]
  all_goals grind

/-- The items of an array are read if there is one. -/
theorem parseValue_items {c : Char} (hc : isBlank c = false) (hend : c ≠ ']') (rest : List Char) :
    parseValue (fuel + 1) ('[' :: c :: rest) =
      (parseItems fuel (c :: rest)).map fun (items, rest) => (array items, rest) := by
  simp only [parseValue, skipBlanks_cons hc]
  split
  · next h => exact (hend (List.cons.inj h).1).elim
  · rfl

/-- The fields of an object are read if there is one. -/
theorem parseValue_fields (rest : List Char) :
    parseValue (fuel + 1) ('\x7b' :: '"' :: rest) =
      (parseFields fuel ('"' :: rest)).map fun (fields, rest) => (object fields, rest) := by
  simp only [parseValue, skipBlanks_cons (show isBlank '"' = false by decide)]
  rfl

/-- A value is read whenever it is with some fuel, since its text is not empty. -/
theorem Written.parses_of_succ (h : value.Written)
    (hread : ∀ fuel rest, value.render.length ≤ fuel + 1 → EndsValue rest →
      parseValue (fuel + 1) (value.render ++ rest) = some (value, rest)) : value.Parses := by
  intro fuel rest hfuel hrest
  cases fuel with
  | zero =>
    obtain ⟨c, text, hrender, -⟩ := h.exists_render
    rw [hrender] at hfuel
    exact (Nat.not_succ_le_zero _ hfuel).elim
  | succ fuel => exact hread fuel rest hfuel hrest

/-- Every value is read off its text. -/
theorem Written.parses (h : value.Written) : value.Parses := by
  induction h with
  | null => exact Written.null.parses_of_succ fun _ _ _ _ => rfl
  | bool value => exact (Written.bool value).parses_of_succ fun _ _ _ _ => by cases value <;> rfl
  | number h =>
    apply (Written.number h).parses_of_succ
    intro fuel rest _ hrest
    obtain ⟨c, digits, rfl, hc⟩ := h.head
    rw [render, List.cons_append, parseValue_number hc, ← List.cons_append, h.scan rest hrest]
    rfl
  | string h =>
    apply (Written.string h).parses_of_succ
    intro fuel rest _ _
    simp only [render, renderString, List.cons_append, List.append_assoc, List.nil_append,
      parseValue]
    rw [h rest]
    rfl
  | @array items h ih =>
    apply (Written.array h).parses_of_succ
    intro fuel rest hfuel _
    rw [render] at hfuel ⊢
    simp only [List.length_append, List.length_cons] at hfuel
    cases items with
    | nil => rfl
    | cons item others =>
      obtain ⟨c, text, htext, hc, hend⟩ := exists_renderItems (h item (.head _)) others
      have hitems := parseItems_renderItems (List.cons_ne_nil _ _) h ih
        (show _ < fuel by omega) rest
      rw [htext] at hitems ⊢
      simp only [List.cons_append, List.append_assoc, List.nil_append] at hitems ⊢
      rw [parseValue_items hc hend, hitems, Option.map_some]
  | @object fields hkeys hvalues ih =>
    apply (Written.object hkeys hvalues).parses_of_succ
    intro fuel rest hfuel _
    rw [render] at hfuel ⊢
    simp only [List.length_append, List.length_cons] at hfuel
    cases fields with
    | nil => rfl
    | cons field others =>
      obtain ⟨text, htext⟩ := exists_renderFields field others
      have hfields := parseFields_renderFields (List.cons_ne_nil _ _) hkeys hvalues ih
        (show _ < fuel by omega) rest
      rw [htext] at hfields ⊢
      simp only [List.cons_append, List.append_assoc, List.nil_append] at hfields ⊢
      rw [parseValue_fields, hfields, Option.map_some]

/-- The text of a value whose literals are taken off a text is read as that value. -/
theorem parse_toText (h : value.Written) : parse value.toText = some value := by
  have hread := h.parses (2 * value.render.length + 2) [] (by omega) nofun
  have hblanks := h.skipBlanks []
  rw [List.append_nil] at hread hblanks
  simp only [parse, toText, String.toList_ofList, String.length_ofList, hblanks, hread]
  rfl

end ObjectStorage.Json
