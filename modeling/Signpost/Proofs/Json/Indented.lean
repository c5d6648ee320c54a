import Mathlib.Data.List.DropRight
import Signpost.Json.Parser
import Signpost.Json.Printer
import Signpost.Proofs.Json.Members

/-!
# Reading the indented form

What the indented form says is read from it again.  Numbers are left out: they
need not be read as they are written.  The items and members of the form stand
on lines of their own with commas between them.
-/

namespace Signpost.Json

variable {c : Char} {text rest : List Char} {fuel depth indent : Nat}

theorem skipBlanks_newLine (hc : isBlank c = false) :
    skipBlanks (newLine indent ++ c :: rest) = c :: rest := by
  have hblanks : ∀ d ∈ newLine indent, isBlank d = true := by
    intro d hd
    rcases List.mem_cons.mp hd with rfl | hd
    · rfl
    · rw [(List.mem_replicate.mp hd).2]
      rfl
  rw [skipBlanks, List.dropWhile_append_of_pos hblanks, List.dropWhile_cons]
  simp [hc]

theorem indentedItems_eq (indent : Nat) (items : List Json) :
    indentedItems indent items = [','].intercalate
      (items.map fun item => newLine indent ++ indentedChars indent item) := by
  induction items with
  | nil => rfl
  | cons item rest ih =>
      cases rest with
      | nil => simp [indentedItems]
      | cons next rest =>
          have htext : indentedItems indent (item :: next :: rest) =
              newLine indent ++ indentedChars indent item ++
                [','] ++ indentedItems indent (next :: rest) := by
            rw [List.append_assoc _ [',']]
            rfl
          simp only [htext, ih, List.map_cons, List.intercalate_cons_cons]

theorem indentedMembers_eq (indent : Nat) (members : List (String × Json)) :
    indentedMembers indent members = [','].intercalate
      (members.map fun member => newLine indent ++
        (quoted member.1 ++ ':' :: ' ' :: indentedChars indent member.2)) := by
  induction members with
  | nil => rfl
  | cons member rest ih =>
      cases rest with
      | nil => simp [indentedMembers]
      | cons next rest =>
          have htext : indentedMembers indent (member :: next :: rest) =
              newLine indent ++
                (quoted member.1 ++ ':' :: ' ' ::
                  indentedChars indent member.2) ++
                [','] ++ indentedMembers indent (next :: rest) := by
            rw [List.append_assoc _ [','], ← List.append_assoc (newLine indent)]
            rfl
          simp only [htext, ih, List.map_cons, List.intercalate_cons_cons]

/-! ## Strings -/

private theorem hexValue?_hexDigit :
    ∀ value < 16, hexValue? (hexDigit value) = some value := by
  decide

private theorem escaped_control (hc : c.toNat < 32) (rest : List Char) :
    escaped ('u' :: '0' :: '0' :: hexDigit (c.toNat / 16) ::
      hexDigit (c.toNat % 16) :: rest) = some (c, rest) := by
  have hzero : hexValue? '0' = some 0 := by decide
  have hhigh := hexValue?_hexDigit (c.toNat / 16) (by omega)
  have hlow := hexValue?_hexDigit (c.toNat % 16) (by omega)
  have hunit : unit? ('0' :: '0' :: hexDigit (c.toNat / 16) ::
      hexDigit (c.toNat % 16) :: rest) = some (c.toNat, rest) := by
    simp only [unit?, hzero, hhigh, hlow]
    simp [Nat.div_add_mod']
  change unicodeEscape _ = _
  rw [unicodeEscape, hunit]
  simp only [Option.bind_eq_bind, Option.bind_some]
  rw [if_pos (.inl (by omega)), Char.ofNat_toNat]
  rfl

private theorem stringBody_escapeChar (read : List Char) :
    stringBody (fuel + 1) read (escapeChar c ++ rest) =
      stringBody fuel (c :: read) rest := by
  unfold escapeChar
  split
  · next h => subst h; rfl
  split
  · next h => subst h; rfl
  split
  · next h => subst h; rfl
  split
  · next h => subst h; rfl
  split
  · next h => subst h; rfl
  split
  · next h => subst h; rfl
  split
  · next h => subst h; rfl
  split
  · next hcontrol =>
      change (escaped ('u' :: '0' :: '0' :: hexDigit (c.toNat / 16) ::
        hexDigit (c.toNat % 16) :: rest)).bind _ = _
      rw [escaped_control hcontrol]
      rfl
  · next hquote hslash _ _ _ _ _ hcontrol =>
      simp [stringBody, hquote, hslash, hcontrol]

private theorem stringBody_escaped (word read : List Char)
    (hfuel : word.length < fuel) :
    stringBody fuel read (word.flatMap escapeChar ++ '"' :: rest) =
      some (word.reverse ++ read, rest) := by
  induction word generalizing fuel read with
  | nil =>
      obtain ⟨fuel, rfl⟩ := Nat.exists_eq_succ_of_ne_zero (Nat.ne_of_gt hfuel)
      rfl
  | cons c word ih =>
      obtain ⟨fuel, rfl⟩ : ∃ less, fuel = less + 1 := ⟨fuel - 1, by
        rw [List.length_cons] at hfuel
        omega⟩
      rw [List.flatMap_cons, List.append_assoc, stringBody_escapeChar,
        ih (c :: read) (by simpa using hfuel)]
      simp

private theorem length_le_flatMap (word : List Char) :
    word.length ≤ (word.flatMap escapeChar).length := by
  induction word with
  | nil => exact Nat.le_refl _
  | cons c word ih =>
      have hpos : 0 < (escapeChar c).length := by
        unfold escapeChar
        repeat' split
        all_goals exact Nat.zero_lt_succ _
      rw [List.flatMap_cons, List.length_append, List.length_cons]
      omega

theorem string?_escaped (text : String) (rest : List Char) :
    string? (text.toList.flatMap escapeChar ++ '"' :: rest) =
      some (text, rest) := by
  have hlength := length_le_flatMap text.toList
  rw [string?, stringBody_escaped text.toList []]
  · simp
  · rw [List.length_append, List.length_cons]
    omega

/-! ## Values -/

theorem skipBlanks_skipBlanks (text : List Char) :
    skipBlanks (skipBlanks text) = skipBlanks text :=
  List.dropWhile_idempotent _ _

theorem value_skipBlanks (fuel depth : Nat) (text : List Char) :
    value fuel depth (skipBlanks text) = value fuel depth text := by
  cases fuel with
  | zero => rfl
  | succ fuel => rw [value, value, skipBlanks_skipBlanks]

/-- The text is read as the value, with whatever stands behind it left. -/
structure ReadAs (depth : Nat) (text : List Char) (read : Json) : Prop where
  opens : ∃ c more, text = c :: more ∧ isBlank c = false ∧ c ≠ ']'
  value_eq : ∀ fuel rest, text.length < fuel →
    value fuel depth (text ++ rest) = some (read, rest)

variable {read : Json} {items : List Json} {members : List (String × Json)}

theorem readAs_null (depth : Nat) : ReadAs depth (scalar .null) .null where
  opens := ⟨'n', _, rfl, rfl, by decide⟩
  value_eq := by
    intro fuel rest hfuel
    obtain ⟨fuel, rfl⟩ :=
      Nat.exists_eq_succ_of_ne_zero (Nat.ne_zero_of_lt hfuel)
    rfl

theorem readAs_bool (depth : Nat) (flag : Bool) :
    ReadAs depth (scalar (.bool flag)) (.bool flag) where
  opens := by
    cases flag
    · exact ⟨'f', _, rfl, rfl, by decide⟩
    · exact ⟨'t', _, rfl, rfl, by decide⟩
  value_eq := by
    intro fuel rest hfuel
    obtain ⟨fuel, rfl⟩ :=
      Nat.exists_eq_succ_of_ne_zero (Nat.ne_zero_of_lt hfuel)
    cases flag <;> rfl

theorem readAs_string (depth : Nat) (text : String) :
    ReadAs depth (quoted text) (.string text) where
  opens := ⟨'"', _, rfl, rfl, by decide⟩
  value_eq := by
    intro fuel rest hfuel
    obtain ⟨fuel, rfl⟩ :=
      Nat.exists_eq_succ_of_ne_zero (Nat.ne_zero_of_lt hfuel)
    have hquoted : quoted text ++ rest =
        '"' :: (text.toList.flatMap escapeChar ++ '"' :: rest) := by
      simp [quoted]
    rw [hquoted]
    change (string? _).map _ = _
    rw [string?_escaped]
    rfl

private theorem items_skipBlanks (fuel depth : Nat) (text : List Char) :
    Json.items fuel depth (skipBlanks text) = Json.items fuel depth text := by
  cases fuel with
  | zero => rfl
  | succ fuel => rw [Json.items, Json.items, value_skipBlanks]

private theorem ReadAs.value_newLine (h : ReadAs depth text read)
    (hfuel : text.length < fuel) (rest : List Char) :
    value fuel depth (newLine indent ++ text ++ rest) = some (read, rest) := by
  obtain ⟨c, more, rfl, hc, -⟩ := h.opens
  rw [← h.value_eq fuel rest hfuel, ← value_skipBlanks, List.append_assoc,
    List.cons_append, skipBlanks_newLine hc]

private theorem items_indentedItems (hne : items ≠ [])
    (h : ∀ item ∈ items, ReadAs depth (indentedChars indent item) item)
    (hfuel : (indentedItems indent items).length < fuel) {outer : Nat} :
    Json.items fuel depth
        (indentedItems indent items ++ newLine outer ++ ']' :: rest) =
      some (items, rest) := by
  induction items generalizing fuel with
  | nil => exact absurd rfl hne
  | cons item more ih =>
      obtain ⟨fuel, rfl⟩ :=
        Nat.exists_eq_succ_of_ne_zero (Nat.ne_zero_of_lt hfuel)
      have hitem := h item List.mem_cons_self
      rw [Json.items]
      cases more with
      | nil =>
          rw [indentedItems, List.length_append, newLine, List.length_cons]
            at hfuel
          rw [indentedItems, List.append_assoc _ (newLine outer),
            hitem.value_newLine (by omega)]
          simp only [Option.bind_eq_bind, Option.bind_some]
          rw [skipBlanks_newLine (by decide)]
          rfl
      | cons next more =>
          have htext : indentedItems indent (item :: next :: more) =
              newLine indent ++ indentedChars indent item ++
                ',' :: indentedItems indent (next :: more) := rfl
          rw [htext, List.length_append, List.length_append, List.length_cons]
            at hfuel
          have hlater :
              (indentedItems indent (next :: more)).length < fuel := by
            omega
          have hmore := ih (List.cons_ne_nil next more)
            (fun item hitem => h item (List.mem_cons_of_mem _ hitem)) hlater
          rw [htext, List.append_assoc, List.append_assoc,
            hitem.value_newLine (by omega)]
          simp only [Option.bind_eq_bind, Option.bind_some, List.cons_append]
          rw [skipBlanks, List.dropWhile_cons_of_neg (by decide)]
          simp only [← List.append_assoc, hmore]
          rfl

private theorem value_bracket (fuel depth : Nat) (text : List Char) :
    value (fuel + 1) (depth + 1) ('[' :: text) =
      match skipBlanks text with
      | ']' :: rest => some (.array [], rest)
      | rest => (Json.items fuel depth rest).map fun (items, rest) =>
          (.array items, rest) :=
  rfl

private theorem value_array (hne : c ≠ ']') {more : List Char}
    (hskip : skipBlanks text = c :: more) :
    value (fuel + 1) (depth + 1) ('[' :: text) =
      (Json.items fuel depth text).map fun (items, rest) =>
        (.array items, rest) := by
  rw [value_bracket, ← items_skipBlanks fuel depth text, hskip]
  split
  · next hclose => exact absurd (List.cons_eq_cons.mp hclose).1 hne
  · rfl

theorem readAs_array
    (h : ∀ item ∈ items, ∀ indent,
      ReadAs depth (indentedChars indent item) item)
    (indent : Nat) :
    ReadAs (depth + 1) (indentedChars indent (.array items))
      (.array items) := by
  cases items with
  | nil =>
      refine ⟨⟨'[', _, rfl, rfl, by decide⟩, fun fuel rest hfuel => ?_⟩
      obtain ⟨fuel, rfl⟩ :=
        Nat.exists_eq_succ_of_ne_zero (Nat.ne_zero_of_lt hfuel)
      rfl
  | cons item more =>
      refine ⟨⟨'[', _, rfl, rfl, by decide⟩, fun fuel rest hfuel => ?_⟩
      obtain ⟨fuel, rfl⟩ :=
        Nat.exists_eq_succ_of_ne_zero (Nat.ne_zero_of_lt hfuel)
      have htext : indentedChars indent (.array (item :: more)) ++ rest =
          '[' :: (indentedItems (indent + 1) (item :: more) ++ newLine indent ++
            ']' :: rest) := by
        change '[' :: _ ++ _ ++ _ ++ rest = _
        simp
      have hlength := congrArg List.length htext
      simp only [List.length_append, List.length_cons] at hlength
      obtain ⟨c, tail, hitem, hc, hne⟩ :=
        (h item List.mem_cons_self (indent + 1)).opens
      obtain ⟨behind, hbehind⟩ :
          ∃ behind, indentedItems (indent + 1) (item :: more) =
          newLine (indent + 1) ++ c :: tail ++ behind := by
        rw [← hitem]
        cases more
        · exact ⟨[], (List.append_nil _).symm⟩
        · exact ⟨_, rfl⟩
      rw [htext, value_array hne (by
          rw [hbehind, List.append_assoc, List.append_assoc, List.append_assoc]
          exact skipBlanks_newLine hc),
        items_indentedItems (List.cons_ne_nil item more)
          (fun item hitem => h item hitem _) (by omega)]
      rfl

/-! ## Objects -/

private theorem members_skipBlanks (fuel depth : Nat) (text : List Char) :
    Json.members fuel depth (skipBlanks text) =
      Json.members fuel depth text := by
  cases fuel with
  | zero => rfl
  | succ fuel => rw [Json.members, Json.members, skipBlanks_skipBlanks]

private theorem member_read {key : String} (h : ReadAs depth text read)
    (hfuel : text.length < fuel) (rest : List Char) :
    Json.members (fuel + 1) depth
        (newLine indent ++ quoted key ++ ':' :: ' ' :: text ++ rest) =
      match skipBlanks rest with
      | ',' :: rest => do
        let (more, rest) ← Json.members fuel depth rest
        return ((key, read) :: more, rest)
      | '\x7d' :: rest => some ([(key, read)], rest)
      | _ => none := by
  have htext : newLine indent ++ quoted key ++ ':' :: ' ' :: text ++ rest =
      newLine indent ++ '"' :: (key.toList.flatMap escapeChar ++
        '"' :: ':' :: ' ' :: (text ++ rest)) := by
    simp [quoted]
  have hvalue : value fuel depth (' ' :: (text ++ rest)) =
      some (read, rest) := by
    rw [← h.value_eq fuel rest hfuel, ← value_skipBlanks]
    exact value_skipBlanks fuel depth (text ++ rest)
  rw [htext, ← members_skipBlanks, skipBlanks_newLine (by decide)]
  change (string? _).bind _ = _
  rw [string?_escaped, Option.bind_some]
  change (value fuel depth (' ' :: (text ++ rest))).bind _ = _
  rw [hvalue]
  rfl

private theorem members_indentedMembers (hne : members ≠ [])
    (h : ∀ member ∈ members,
      ReadAs depth (indentedChars indent member.2) member.2)
    (hfuel : (indentedMembers indent members).length < fuel) {outer : Nat} :
    Json.members fuel depth
        (indentedMembers indent members ++ newLine outer ++ '\x7d' :: rest) =
      some (members, rest) := by
  induction members generalizing fuel with
  | nil => exact absurd rfl hne
  | cons member more ih =>
      obtain ⟨fuel, rfl⟩ :=
        Nat.exists_eq_succ_of_ne_zero (Nat.ne_zero_of_lt hfuel)
      obtain ⟨key, item⟩ := member
      have hitem : ReadAs depth (indentedChars indent item) item :=
        h (key, item) List.mem_cons_self
      cases more with
      | nil =>
          rw [indentedMembers] at hfuel ⊢
          simp only [List.length_append, List.length_cons] at hfuel
          rw [List.append_assoc _ (newLine outer), member_read hitem (by omega),
            skipBlanks_newLine (by decide)]
          rfl
      | cons next more =>
          have htext : indentedMembers indent ((key, item) :: next :: more) =
              newLine indent ++ quoted key ++ ':' :: ' ' ::
                indentedChars indent item ++
                ',' :: indentedMembers indent (next :: more) := rfl
          rw [htext] at hfuel ⊢
          simp only [List.length_append, List.length_cons] at hfuel
          have hlater :
              (indentedMembers indent (next :: more)).length < fuel := by
            rw [newLine, List.length_cons] at hfuel
            omega
          have hmore := ih (List.cons_ne_nil next more)
            (fun member hmember => h member (List.mem_cons_of_mem _ hmember))
              hlater
          rw [List.append_assoc, List.append_assoc,
            member_read hitem (by omega),
            List.cons_append, skipBlanks,
            List.dropWhile_cons_of_neg (by decide)]
          simp only [← List.append_assoc, hmore]
          rfl

private theorem value_brace (fuel depth : Nat) (text : List Char) :
    value (fuel + 1) (depth + 1) ('\x7b' :: text) =
      match skipBlanks text with
      | '\x7d' :: rest => some (.object [], rest)
      | rest => (Json.members fuel depth rest).map fun (members, rest) =>
          (ofMembers members, rest) :=
  rfl

private theorem value_object {more : List Char}
    (hskip : skipBlanks text = '"' :: more) :
    value (fuel + 1) (depth + 1) ('\x7b' :: text) =
      (Json.members fuel depth text).map fun (members, rest) =>
        (ofMembers members, rest) := by
  rw [value_brace, ← members_skipBlanks fuel depth text, hskip]
  rfl

theorem readAs_object
    (h : ∀ member ∈ members, ∀ indent,
      ReadAs depth (indentedChars indent member.2) member.2)
    (indent : Nat) :
    ReadAs (depth + 1) (indentedChars indent (.object members))
      (ofMembers members) := by
  cases members with
  | nil =>
      refine ⟨⟨'\x7b', _, rfl, rfl, by decide⟩, fun fuel rest hfuel => ?_⟩
      obtain ⟨fuel, rfl⟩ :=
        Nat.exists_eq_succ_of_ne_zero (Nat.ne_zero_of_lt hfuel)
      rfl
  | cons member more =>
      refine ⟨⟨'\x7b', _, rfl, rfl, by decide⟩, fun fuel rest hfuel => ?_⟩
      obtain ⟨fuel, rfl⟩ :=
        Nat.exists_eq_succ_of_ne_zero (Nat.ne_zero_of_lt hfuel)
      have htext : indentedChars indent (.object (member :: more)) ++ rest =
          '\x7b' ::
            (indentedMembers (indent + 1) (member :: more) ++ newLine indent ++
            '\x7d' :: rest) := by
        change '\x7b' :: _ ++ _ ++ _ ++ rest = _
        simp
      have hlength := congrArg List.length htext
      simp only [List.length_append, List.length_cons] at hlength
      obtain ⟨behind, hbehind⟩ :
          ∃ behind, indentedMembers (indent + 1) (member :: more) =
          newLine (indent + 1) ++ quoted member.1 ++ behind := by
        cases more
        · exact ⟨_, rfl⟩
        · exact ⟨_,
            List.append_assoc (newLine (indent + 1) ++ quoted member.1) _ _⟩
      rw [htext, value_object (by
          rw [hbehind, List.append_assoc, List.append_assoc, List.append_assoc]
          exact skipBlanks_newLine (by decide)),
        members_indentedMembers (List.cons_ne_nil member more)
          (fun member hmember => h member hmember _) (by omega)]
      rfl

theorem parse?_of_readAs (h : ReadAs depthLimit text read) :
    parse? (String.ofList (text ++ ['\n'])) = some read := by
  rw [parse?, String.toList_ofList]
  have hvalue := h.value_eq ((text ++ ['\n']).length + 1) ['\n']
    (by rw [List.length_append]; omega)
  dsimp only
  rw [hvalue]
  rfl

end Signpost.Json
