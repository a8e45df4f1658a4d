import ModalEditor.Proofs.Checked.Basic
import ModalEditor.Session.Press

namespace ModalEditor

/-!
# Reading scripts back and in pieces

A key is spelled by its character or by a name in brackets, and the opening bracket itself by
a name, so that a bracket in a spelling never stands for a key.  Reading the spellings of some
keys in a row gives these keys, but for two kinds of keys that no script spells: characters
that stand for another key, and characters typed with Control whose name reads otherwise.

A reader that meets an opening bracket looks for the next closing one, however far away.  A
script can be cut where no bracket is left open: what comes behind the cut is never looked at
for a name that started before it.

A machine finds the closing bracket in bytes and cuts the script there.  It never cuts a
character, whatever stands between the brackets.
-/

namespace Key

/-- The script that spells a key. -/
def spelling : Key → Text
  | .char c => if c = '<' then ['<', 'l', 't', '>'] else [c]
  | .escape => ['<', 'E', 's', 'c', '>']
  | .enter => ['<', 'C', 'R', '>']
  | .backspace => ['<', 'B', 'S', '>']
  | .ctrl c => ['<', 'C', '-', c, '>']

/-- Whether the spelling of a key is read as that key.  A line feed and the escape character
are read as the keys of that name; names are read in lowercase and end at the first closing
bracket. -/
def IsSpellable : Key → Prop
  | .char c => c ≠ '\n' ∧ c ≠ '\x1b'
  | .ctrl c => c.isUpper = false ∧ c ≠ '>'
  | .escape | .enter | .backspace => True

/-- Whether every opening bracket of a script has a closing one somewhere behind it. -/
def BracketsClose (script : Text) : Prop :=
  ∀ before after, script = before ++ '<' :: after → '>' ∈ after

variable {key : Key} {name rest first : Text} {c : Char}

theorem bracketsClose_nil : BracketsClose [] := by
  intro before after h
  simp at h

theorem bracketsClose_cons_iff :
    BracketsClose (c :: rest) ↔ (c = '<' → '>' ∈ rest) ∧ BracketsClose rest := by
  constructor
  · intro h
    refine ⟨fun hOpen => h [] rest (by rw [hOpen]; rfl), fun before after hRest => ?_⟩
    exact h (c :: before) after (by rw [hRest]; rfl)
  · rintro ⟨hFirst, hRest⟩ before after hText
    cases before with
    | nil =>
        obtain ⟨hOpen, rfl⟩ := List.cons.inj hText
        exact hFirst hOpen
    | cons d before => exact hRest before after (List.cons.inj hText).2

/-! ## Names in brackets -/

theorem bracketedName?_of_notMem (h : '>' ∉ first) : bracketedName? first = none := by
  induction first with
  | nil => rfl
  | cons c first ih =>
      rw [bracketedName?, if_neg (List.ne_of_not_mem_cons h).symm,
        ih (List.not_mem_of_not_mem_cons h)]
      rfl

theorem bracketedName?_closed (h : '>' ∉ name) (rest : Text) :
    bracketedName? (name ++ '>' :: rest) = some name := by
  induction name with
  | nil => rfl
  | cons c name ih =>
      rw [List.cons_append, bracketedName?, if_neg (List.ne_of_not_mem_cons h).symm,
        ih (List.not_mem_of_not_mem_cons h)]
      rfl

/-- Without a closing bracket there is no name. -/
theorem named?_of_notMem (h : '>' ∉ first) : named? first = none := by
  rw [named?, bracketedName?_of_notMem h]

/-- A name reaches up to the first closing bracket. -/
theorem named?_closed (h : '>' ∉ name) (rest : Text) :
    named? (name ++ '>' :: rest) = (ofName? name).map fun key => (key, name.length + 1) := by
  rw [named?, bracketedName?_closed h]

/-- What follows a closing bracket is of no account for the name before it. -/
theorem named?_append (h : '>' ∈ first) (second : Text) :
    named? (first ++ second) = named? first := by
  obtain ⟨name, rest, rfl, hName⟩ := List.eq_append_cons_of_mem h
  rw [List.append_assoc, List.cons_append, named?_closed hName, named?_closed hName]

/-- A name and its closing bracket are part of the text. -/
theorem width_le_of_named? {width : Nat} (h : named? first = some (key, width)) :
    width ≤ first.length := by
  by_cases hClose : '>' ∈ first
  · obtain ⟨name, rest, rfl, hName⟩ := List.eq_append_cons_of_mem hClose
    rw [named?_closed hName] at h
    obtain ⟨other, -, hPair⟩ := Option.map_eq_some_iff.mp h
    cases hPair
    simp
  · rw [named?_of_notMem hClose] at h
    cases h

/-! ## One key -/

/-- What was read as part of a name is not read again. -/
theorem parseAfter_eq (skip : Nat) (script : Text) :
    parseAfter skip script = parseScript (script.drop skip) := by
  induction script generalizing skip with
  | nil => simp [parseScript, parseAfter]
  | cons c script ih =>
      cases skip with
      | zero => rfl
      | succ skip => exact ih skip

/-- A name in brackets is read as the key it stands for. -/
theorem parseScript_name (name : Text) (h : '>' ∉ name) (hKey : ofName? name = some key)
    (rest : Text) :
    parseScript ('<' :: (name ++ '>' :: rest)) = key :: parseScript rest := by
  have hDrop : (name ++ '>' :: rest).drop (name.length + 1) = rest := by simp
  rw [parseScript, parseAfter, if_pos rfl, named?_closed h, hKey]
  simp only [Option.map_some]
  rw [parseAfter_eq, hDrop]

/-- Any other character is read by itself. -/
theorem parseScript_cons (h : c = '<' → named? rest = none) :
    parseScript (c :: rest) = ofChar c :: parseScript rest := by
  have hNone : (if c = '<' then named? rest else none) = none := by
    split
    · exact h ‹_›
    · rfl
  rw [parseScript, parseAfter, hNone]
  rfl

/-- The name of a character typed with Control is read in lowercase. -/
theorem ofName?_ctrl (c : Char) : ofName? ['C', '-', c] = some (.ctrl c.toLower) := rfl

theorem toLower_eq_iff : c.toLower = c ↔ c.isUpper = false := by
  by_cases hUpper : c.val ≥ 'A'.val ∧ c.val ≤ 'Z'.val
  · have hIs : c.isUpper = true := decide_eq_true hUpper
    have hMoved : c.toLower.val = c.val + ('a'.val - 'A'.val) :=
      congrArg Char.val (dif_pos hUpper)
    refine iff_of_false (fun hSame => ?_) (ne_false_of_eq_true hIs)
    rw [hSame] at hMoved
    simp at hMoved
  · exact iff_of_true (dif_neg hUpper) (decide_eq_false hUpper)

theorem parseScript_spelling_ctrl (h : c ≠ '>') (rest : Text) :
    parseScript ((Key.ctrl c).spelling ++ rest) = .ctrl c.toLower :: parseScript rest :=
  parseScript_name ['C', '-', c] (by simp [Ne.symm h]) (ofName?_ctrl c) rest

/-- The spelling of a key is read as that key, whatever follows. -/
theorem parseScript_spelling_append (h : key.IsSpellable) (rest : Text) :
    parseScript (key.spelling ++ rest) = key :: parseScript rest := by
  cases key with
  | escape => exact parseScript_name ['E', 's', 'c'] (by decide) rfl rest
  | enter => exact parseScript_name ['C', 'R'] (by decide) rfl rest
  | backspace => exact parseScript_name ['B', 'S'] (by decide) rfl rest
  | ctrl c =>
      obtain ⟨hLower, hOther⟩ := h
      rw [parseScript_spelling_ctrl hOther, toLower_eq_iff.mpr hLower]
  | char c =>
      obtain ⟨hFeed, hEscape⟩ := h
      rw [spelling]
      by_cases hOpen : c = '<'
      · rw [if_pos hOpen, hOpen]
        exact parseScript_name ['l', 't'] (by decide) rfl rest
      · rw [if_neg hOpen, List.singleton_append, parseScript_cons (absurd · hOpen), ofChar,
          if_neg hFeed, if_neg hEscape]

/-- The spelling of any other key starts with another one. -/
theorem exists_parseScript_of_not_isSpellable (h : ¬ key.IsSpellable) (rest : Text) :
    ∃ other keys, parseScript (key.spelling ++ rest) = other :: keys ∧ other ≠ key := by
  cases key with
  | escape | enter | backspace => exact absurd trivial h
  | ctrl c =>
      by_cases hClose : c = '>'
      · -- The name ends before the character, and so it names nothing.
        subst hClose
        exact ⟨.char '<', _, rfl, nofun⟩
      · refine ⟨_, _, parseScript_spelling_ctrl hClose rest, fun hSame => h ⟨?_, hClose⟩⟩
        exact toLower_eq_iff.mp (Key.ctrl.inj hSame)
  | char c =>
      have hOpen : c ≠ '<' := by
        rintro rfl
        exact h ⟨by decide, by decide⟩
      rw [spelling, if_neg hOpen, List.singleton_append, parseScript_cons (absurd · hOpen), ofChar]
      refine ⟨_, _, rfl, fun hSame => ?_⟩
      split at hSame
      · cases hSame
      · split at hSame
        · cases hSame
        · exact h ⟨‹_›, ‹_›⟩

/-! ## Scripts -/

/-- The spellings of keys in a row are read as these keys exactly if each of them has a
spelling. -/
theorem parseScript_flatMap_spelling_iff (keys : List Key) :
    parseScript (keys.flatMap spelling) = keys ↔ ∀ key ∈ keys, key.IsSpellable := by
  induction keys with
  | nil => simp [parseScript, parseAfter]
  | cons key keys ih =>
      rw [List.flatMap_cons, List.forall_mem_cons, ← ih]
      by_cases hKey : key.IsSpellable
      · rw [parseScript_spelling_append hKey, List.cons.injEq]
        simp [hKey]
      · obtain ⟨other, read, hRead, hOther⟩ :=
          exists_parseScript_of_not_isSpellable hKey (keys.flatMap spelling)
        rw [hRead, List.cons.injEq]
        simp [hKey, hOther]

/-- Behind brackets that all close, reading starts anew. -/
theorem parseAfter_append (h : BracketsClose first) {skip : Nat} (hSkip : skip ≤ first.length)
    (second : Text) :
    parseAfter skip (first ++ second) = parseAfter skip first ++ parseScript second := by
  induction first generalizing skip with
  | nil =>
      obtain rfl := Nat.le_zero.mp hSkip
      rw [parseAfter]
      rfl
  | cons c first ih =>
      obtain ⟨hClose, hRest⟩ := bracketsClose_cons_iff.mp h
      cases skip with
      | succ skip => exact ih hRest (Nat.le_of_succ_le_succ hSkip)
      | zero =>
          have hNamed : (if c = '<' then named? (first ++ second) else none) =
              if c = '<' then named? first else none := by
            split
            · exact named?_append (hClose ‹_›) second
            · rfl
          rw [List.cons_append, parseAfter, parseAfter, hNamed]
          cases hName : if c = '<' then named? first else none with
          | none => exact congrArg (ofChar c :: ·) (ih hRest (Nat.zero_le _))
          | some read =>
              have hWidth : read.2 ≤ first.length := by
                split at hName
                · exact width_le_of_named? hName
                · cases hName
              exact congrArg (read.1 :: ·) (ih hRest hWidth)

/-- A script can be cut where all brackets close. -/
theorem parseScript_append (h : BracketsClose first) (second : Text) :
    parseScript (first ++ second) = parseScript first ++ parseScript second :=
  parseAfter_append h (Nat.zero_le _) second

end Key

/-! ## Scripts in bytes -/

namespace Checked

/-- The byte at which a character first stands in a text. -/
def findByte? (target : Char) : Text → Option Nat
  | [] => none
  | c :: rest => if c = target then some 0 else (findByte? target rest).map (c.utf8Size + ·)

/-- A script being read: the keys so far and what is left of it. -/
structure Reading where
  keys : List Key
  left : Text

/-- The key that a name in brackets at the start of a script stands for, if there is one, with
the number of bytes it takes up. -/
def namedKey? (script : Text) : Checked (Option (Key × Nat)) :=
  if script.head? = some '<' then
    match findByte? '>' script with
    | none => pure none
    | some stop => do
        let name ← sliceBytes script 1 stop
        pure ((Key.ofName? name).map fun key => (key, stop + 1))
  else pure none

/-- Reads the next key. -/
def Reading.next (reading : Reading) : Checked Reading :=
  match reading.left with
  | [] => pure reading
  | c :: _ => do
      let named ← namedKey? reading.left
      let read := named.getD (Key.ofChar c, c.utf8Size)
      let left ← sliceBytes reading.left read.2 (byteLength reading.left)
      pure ⟨reading.keys ++ [read.1], left⟩

/-- The keys that a script spells. -/
def parseScript (script : Text) : Checked (List Key) := do
  let last ← whileLoop (fun reading => pure !reading.left.isEmpty) Reading.next
    (script.length + 1) ⟨[], script⟩
  pure last.keys

variable {name : Text} {target : Char}

theorem findByte?_of_notMem {text : Text} (h : target ∉ text) : findByte? target text = none := by
  induction text with
  | nil => rfl
  | cons c text ih =>
      rw [findByte?, if_neg (List.ne_of_not_mem_cons h).symm,
        ih (List.not_mem_of_not_mem_cons h)]
      rfl

theorem findByte?_append (name : Text) (h : target ∉ name) (rest : Text) :
    findByte? target (name ++ target :: rest) = some (byteLength name) := by
  induction name with
  | nil => simp [findByte?]
  | cons c name ih =>
      rw [List.cons_append, findByte?, if_neg (List.ne_of_not_mem_cons h).symm,
        ih (List.not_mem_of_not_mem_cons h)]
      rfl

theorem namedKey?_of_ne {c : Char} (h : c ≠ '<') (rest : Text) :
    namedKey? (c :: rest) = .ok none := by
  rw [namedKey?, if_neg (by simpa using h)]
  rfl

theorem namedKey?_of_notMem {rest : Text} (h : '>' ∉ rest) :
    namedKey? ('<' :: rest) = .ok none := by
  have hNone : '>' ∉ '<' :: rest := by simp [h]
  rw [namedKey?, List.head?_cons, if_pos rfl, findByte?_of_notMem hNone]
  rfl

/-- The brackets are found in bytes, and between them is the name. -/
theorem namedKey?_closed (h : '>' ∉ name) (rest : Text) :
    namedKey? ('<' :: (name ++ '>' :: rest)) =
      .ok ((Key.ofName? name).map fun key => (key, byteLength ('<' :: (name ++ ['>'])))) := by
  have hFind : findByte? '>' ('<' :: (name ++ '>' :: rest)) = some (byteLength ('<' :: name)) :=
    findByte?_append ('<' :: name) (by simp [h]) rest
  have hName : sliceBytes ('<' :: (name ++ '>' :: rest)) 1 (byteLength ('<' :: name)) =
      .ok name := by
    have hBetween := sliceBytes_append ['<'] name ('>' :: rest)
    rwa [List.singleton_append, List.cons_append] at hBetween
  have hWidth : byteLength ('<' :: name) + 1 = byteLength ('<' :: (name ++ ['>'])) := by
    simp only [byteLength_cons, byteLength_append]
    rfl
  rw [namedKey?, List.head?_cons, if_pos rfl, hFind]
  simp only [hName, ok_bind, hWidth, pure_eq]

/-- The script is cut behind what was read. -/
theorem next_eq {c : Char} {rest left : Text} {named : Option (Key × Nat)} {key : Key}
    (read : Text) (hNamed : namedKey? (c :: rest) = .ok named)
    (hRead : named.getD (Key.ofChar c, c.utf8Size) = (key, byteLength read))
    (hCut : c :: rest = read ++ left) (keys : List Key) :
    Reading.next ⟨keys, c :: rest⟩ = .ok ⟨keys ++ [key], left⟩ := by
  have hLeft := sliceBytes_append read left []
  rw [List.append_nil, ← hCut] at hLeft
  simp only [Reading.next, hNamed, ok_bind, hRead, hLeft, pure_eq]

/-- Each step reads the first key of what is left and leaves less. -/
theorem exists_next_eq (keys : List Key) (c : Char) (rest : Text) :
    ∃ key left, Reading.next ⟨keys, c :: rest⟩ = .ok ⟨keys ++ [key], left⟩ ∧
      Key.parseScript (c :: rest) = key :: Key.parseScript left ∧
      left.length < (c :: rest).length := by
  -- Without a name the first character is read by itself.
  have hAlone (hNamed : namedKey? (c :: rest) = .ok none)
      (hNone : c = '<' → Key.named? rest = none) :
      ∃ key left, Reading.next ⟨keys, c :: rest⟩ = .ok ⟨keys ++ [key], left⟩ ∧
        Key.parseScript (c :: rest) = key :: Key.parseScript left ∧
        left.length < (c :: rest).length :=
    ⟨Key.ofChar c, rest, next_eq [c] hNamed rfl rfl keys, Key.parseScript_cons hNone,
      Nat.lt_succ_self _⟩
  by_cases hOpen : c = '<'
  · subst hOpen
    by_cases hClose : '>' ∈ rest
    · obtain ⟨name, after, rfl, hName⟩ := List.eq_append_cons_of_mem hClose
      have hNamed := namedKey?_closed hName after
      cases hKey : Key.ofName? name with
      | some key =>
          rw [hKey] at hNamed
          refine ⟨key, after, next_eq ('<' :: (name ++ ['>'])) hNamed rfl ?_ keys,
            Key.parseScript_name name hName hKey after, ?_⟩
          · simp
          · simp
            omega
      | none =>
          rw [hKey] at hNamed
          refine hAlone hNamed fun _ => ?_
          rw [Key.named?_closed hName, hKey]
          rfl
    · exact hAlone (namedKey?_of_notMem hClose) fun _ => Key.named?_of_notMem hClose
  · exact hAlone (namedKey?_of_ne hOpen rest) (absurd · hOpen)

/-- Whether the keys read so far and those that the rest spells are together those of a script. -/
def Reading.Of (script : Text) (reading : Reading) : Prop :=
  reading.keys ++ Key.parseScript reading.left = Key.parseScript script

/-- Each round keeps the keys of the script, up to the end of it. -/
theorem Reading.Of.next {script : Text} {reading : Reading} (h : reading.Of script) :
    reading.left = [] ∨ ∃ later, reading.next = .ok later ∧ later.Of script ∧
      later.left.length < reading.left.length := by
  obtain ⟨keys, left⟩ := reading
  cases left with
  | nil => exact Or.inl rfl
  | cons c rest =>
      obtain ⟨key, left, hNext, hFirst, hLess⟩ := exists_next_eq keys c rest
      refine Or.inr ⟨_, hNext, ?_, hLess⟩
      rw [Of, ← h, hFirst, List.append_assoc, List.singleton_append]

/-- Nothing fails on the way through a script, and the keys are those that it spells. -/
theorem parseScript_eq (script : Text) : parseScript script = .ok (Key.parseScript script) := by
  have hStart : Reading.Of script ⟨[], script⟩ := rfl
  obtain ⟨last, hLoop, hKeeps, hEnd⟩ := exists_whileLoop_eq
    (fun reading : Reading => pure !reading.left.isEmpty) Reading.next (Reading.Of script)
    (fun reading => reading.left.length)
    (fun reading hKeeps => by
      rcases hKeeps.next with hEnd | ⟨later, hNext, hLater, hLess⟩
      · exact Or.inl (by rw [hEnd]; rfl)
      · refine Or.inr ⟨later, ?_, hNext, hLater, hLess⟩
        cases hLeft : reading.left with
        | nil =>
            rw [hLeft] at hLess
            cases hLess
        | cons c rest => rfl)
    hStart (script.length + 1) (Nat.lt_succ_self _)
  obtain ⟨keys, left⟩ := last
  obtain rfl : left = [] := by simpa using hEnd
  have hKeys : keys = Key.parseScript script := by
    simpa [Reading.Of, Key.parseScript, Key.parseAfter] using hKeeps
  rw [parseScript, hLoop, hKeys]
  rfl

end Checked

/-! ## Feeding scripts -/

namespace Session

theorem pressAll_append (session : Session) (now : Nat) (first second : List Key) :
    session.pressAll now (first ++ second) =
      (((session.pressAll now first).1.pressAll now second).1,
        (session.pressAll now first).2 ++ ((session.pressAll now first).1.pressAll now second).2) := by
  induction first generalizing session with
  | nil => rfl
  | cons key first ih =>
      simp only [List.cons_append, pressAll, ih]

/-- What two scripts in a row do is what the second does after the first, if no bracket of the
first is left open. -/
theorem feed_append {first : Text} (h : Key.BracketsClose first) (second : Text)
    (session : Session) (now : Nat) :
    session.feed (first ++ second) now =
      (((session.feed first now).1.feed second now).1,
        (session.feed first now).2 ++ ((session.feed first now).1.feed second now).2) := by
  rw [feed, Key.parseScript_append h, pressAll_append]
  rfl

end Session

namespace Key

/-- Scripts are read without fault.  The spellings of some keys in a row are read as these keys,
exactly if each of them can be spelled.  A script whose brackets all close can be read apart
from what follows, and feeding the two one after the other is feeding them in one. -/
theorem scripts_read_back_and_split :
    (∀ script, Checked.parseScript script = .ok (parseScript script)) ∧
      (∀ keys : List Key, parseScript (keys.flatMap spelling) = keys ↔
        ∀ key ∈ keys, key.IsSpellable) ∧
      ∀ first, BracketsClose first → ∀ second,
        parseScript (first ++ second) = parseScript first ++ parseScript second ∧
        ∀ (session : Session) (now : Nat),
          let fed := session.feed first now
          let onward := fed.1.feed second now
          session.feed (first ++ second) now = (onward.1, fed.2 ++ onward.2) := by
  refine ⟨Checked.parseScript_eq, parseScript_flatMap_spelling_iff, ?_⟩
  intro first hClose second
  exact ⟨parseScript_append hClose second, Session.feed_append hClose second⟩

/-- An unknown name with a letter of two bytes and a bracket typed with Control are read before
the cut, and a bracket that is left open behind it. -/
theorem script_with_unknown_name_splits :
    let first : Text := ['<', 'é', '>', '<', 'C', '-', '<', '>', '<', 'B', 'S', '>']
    let second : Text := ['<', 'e', 's', 'c', '>', '<']
    BracketsClose first ∧
      parseScript (first ++ second) =
        [.char '<', .char 'é', .char '>', .ctrl '<', .backspace] ++ [.escape, .char '<'] := by
  intro first second
  have hClose : BracketsClose first := by
    simp [first, bracketsClose_cons_iff, bracketsClose_nil]
  exact ⟨hClose, (scripts_read_back_and_split.2.2 first hClose second).1.trans (by decide)⟩

end Key

end ModalEditor
