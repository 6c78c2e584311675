import SpawnForest.Proofs.Json.Tokens

/-!
# Values that are read back

`Reads levels cs v` says that the characters are read as the value, whatever
follows, by a reader that may still open so many levels. There is one lemma for
each way of writing a value, with blanks wherever they may stand, so that they
serve every form that the printers write. The bound of the reader drops by one
with every value, item and member, and each of these has a character of its own:
this is all that is used of it.

A value whose numbers are whole and whose texts are well formed (`Readable`) is
read back from its indented text (`ofText?_pretty`) and from its compact text
(`ofText?_compact`), so that no other value has the same text.
-/

namespace SpawnForest.Json

namespace Reader

/-! ## Reading from one's own characters -/

/-- A value, starting where it stands. -/
structure Reads (levels : Nat) (cs : List Char) (v : Json) : Prop where
  starts : ∀ rest, ∃ c ds, cs ++ rest = c :: ds ∧ isSpace c = false ∧ c ≠ ']'
  reads : ∀ bound rest, cs.length < bound → Cut rest →
    value? bound levels (cs ++ rest) = some (v, rest)

/-- The items after the first one with the closing bracket. -/
structure ReadsItems (levels : Nat) (cs : List Char) (items : List Json) : Prop where
  cut : ∀ rest, Cut (cs ++ rest)
  reads : ∀ bound rest, cs.length < bound → items? bound levels (cs ++ rest) = some (items, rest)

/-- A member, starting with the quote of its key. -/
structure ReadsMember (levels : Nat) (cs : List Char) (m : Option String × Json) : Prop where
  starts : ∀ rest, ∃ ds, cs ++ rest = '"' :: ds
  reads : ∀ bound rest, cs.length < bound → Cut rest →
    member? bound levels (cs ++ rest) = some (m, rest)

/-- The members after the first one with the closing brace. -/
structure ReadsMembers (levels : Nat) (cs : List Char) (members : List (Option String × Json)) :
    Prop where
  cut : ∀ rest, Cut (cs ++ rest)
  reads : ∀ bound rest, cs.length < bound →
    members? bound levels (cs ++ rest) = some (members, rest)

variable {bound levels : Nat} {v : Json} {key : Option String} {m : Option String × Json}
  {items : List Json} {members : List (Option String × Json)} {bs cs ds ts rest : List Char}

theorem value?_blank (hbs : Blank bs) (bound levels : Nat) (cs : List Char) :
    value? bound levels (bs ++ cs) = value? bound levels cs := by
  cases bound with
  | zero => rw [value?, value?]
  | succ bound => rw [value?, value?, skipSpace_blank hbs]

theorem member?_blank (hbs : Blank bs) (bound levels : Nat) (cs : List Char) :
    member? bound levels (bs ++ cs) = member? bound levels cs := by
  cases bound with
  | zero => rw [member?, member?]
  | succ bound => rw [member?, member?, skipSpace_blank hbs]

/-! ## Values without parts -/

theorem reads_null (levels : Nat) : Reads levels "null".toList .null where
  starts rest := ⟨'n', _, rfl, rfl, by decide⟩
  reads bound rest hbound _ := by
    obtain ⟨bound, rfl⟩ := Nat.exists_eq_add_of_lt hbound
    show value? _ levels ('n' :: 'u' :: 'l' :: 'l' :: rest) = _
    rw [value?]
    rfl

theorem reads_bool (levels : Nat) (b : Bool) :
    Reads levels (if b then "true" else "false").toList (.bool b) where
  starts rest := by
    cases b with
    | false => exact ⟨'f', _, rfl, rfl, by decide⟩
    | true => exact ⟨'t', _, rfl, rfl, by decide⟩
  reads bound rest hbound _ := by
    obtain ⟨bound, rfl⟩ := Nat.exists_eq_add_of_lt hbound
    cases b with
    | false =>
        show value? _ levels ('f' :: 'a' :: 'l' :: 's' :: 'e' :: rest) = _
        rw [value?]
        rfl
    | true =>
        show value? _ levels ('t' :: 'r' :: 'u' :: 'e' :: rest) = _
        rw [value?]
        rfl

theorem value?_of_digit {c : Char} (hc : c.isDigit = true) (bound levels : Nat)
    (cs : List Char) :
    value? (bound + 1) levels (c :: cs) =
      (numeral? (c :: cs)).map (fun (n, rest) => (.number n, rest)) := by
  have hne : ∀ d : Char, d.isDigit = false → c ≠ d := by
    rintro d hd rfl
    rw [hc] at hd
    cases hd
  rw [value?, skipSpace_cons (isSpace_of_isDigit hc)]
  simp [hne 'n' rfl, hne 't' rfl, hne 'f' rfl, hne '"' rfl, hne '[' rfl, hne '\x7b' rfl]

theorem reads_numeral (levels n : Nat) :
    Reads levels (Nat.toDigits 10 n) (.number (.ofNat n)) where
  starts rest := by
    obtain ⟨c, ds, hds, hc⟩ := exists_toDigits n
    refine ⟨c, ds ++ rest, by rw [hds, List.cons_append], isSpace_of_isDigit hc, ?_⟩
    rintro rfl
    cases hc
  reads bound rest hbound hrest := by
    obtain ⟨c, ds, hds, hc⟩ := exists_toDigits n
    obtain ⟨bound, rfl⟩ := Nat.exists_eq_add_of_lt hbound
    have hnumeral := numeral?_toDigits n hrest
    rw [hds, List.cons_append] at hnumeral ⊢
    rw [value?_of_digit hc, hnumeral]
    rfl

theorem reads_text (levels : Nat) (s : String) :
    Reads levels (escaped s).toList (.text (some s)) where
  starts rest := by
    rw [escaped, String.toList_ofList]
    exact ⟨'"', _, rfl, rfl, by decide⟩
  reads bound rest hbound _ := by
    obtain ⟨bound, rfl⟩ := Nat.exists_eq_add_of_lt hbound
    have htext := text?_escaped s rest
    rw [escaped, String.toList_ofList]
    simp only [List.cons_append, List.append_assoc, List.nil_append]
    rw [value?]
    show Option.map _ (text? _) = _
    rw [htext]
    rfl

/-! ## Lists -/

theorem items?_next {more : List Char} (hv : value? bound levels cs = some (v, more))
    (hitems : items? bound levels more = some (items, rest)) :
    items? (bound + 1) levels (',' :: cs) = some (v :: items, rest) := by
  rw [items?, skipSpace_cons rfl]
  simp only [hv, hitems, Option.map_some]

theorem value?_list {c : Char} {more : List Char} (hskip : skipSpace cs = c :: ds) (hc : c ≠ ']')
    (hv : value? bound levels (c :: ds) = some (v, more))
    (hitems : items? bound levels more = some (items, rest)) :
    value? (bound + 1) (levels + 1) ('[' :: cs) = some (.list (v :: items), rest) := by
  rw [value?, skipSpace_cons rfl]
  simp [hskip, hc, hv, hitems, enclosed]

theorem readsItems_nil (levels : Nat) (hbs : Blank bs) : ReadsItems levels (bs ++ [']']) [] where
  cut rest := by
    rw [List.append_assoc]
    exact cut_blank hbs (cut_cons rfl _)
  reads bound rest hbound := by
    obtain ⟨bound, rfl⟩ := Nat.exists_eq_add_of_lt hbound
    rw [List.append_assoc, items?, skipSpace_blank hbs]
    rfl

theorem readsItems_cons (hbs : Blank bs) (hv : Reads levels cs v)
    (hts : ReadsItems levels ts items) :
    ReadsItems levels (',' :: bs ++ cs ++ ts) (v :: items) where
  cut rest := cut_cons rfl _
  reads bound rest hbound := by
    obtain ⟨bound, rfl⟩ := Nat.exists_eq_add_of_lt hbound
    simp only [List.length_append, List.length_cons, List.cons_append, List.append_assoc]
    refine items?_next ?_ (hts.reads _ rest (by omega))
    rw [value?_blank hbs]
    exact hv.reads _ _ (by omega) (hts.cut rest)

theorem reads_list_nil (levels : Nat) : Reads (levels + 1) "[]".toList (.list []) where
  starts rest := ⟨'[', _, rfl, rfl, by decide⟩
  reads bound rest hbound _ := by
    obtain ⟨bound, rfl⟩ := Nat.exists_eq_add_of_lt hbound
    show value? _ (levels + 1) ('[' :: ']' :: rest) = _
    rw [value?]
    rfl

theorem reads_list_cons (hbs : Blank bs) (hv : Reads levels cs v)
    (hts : ReadsItems levels ts items) :
    Reads (levels + 1) ('[' :: bs ++ cs ++ ts) (.list (v :: items)) where
  starts rest := ⟨'[', _, rfl, rfl, by decide⟩
  reads bound rest hbound _ := by
    obtain ⟨bound, rfl⟩ := Nat.exists_eq_add_of_lt hbound
    obtain ⟨c, ds, hfirst, hspace, hclose⟩ := hv.starts (ts ++ rest)
    simp only [List.length_append, List.length_cons, List.cons_append, List.append_assoc]
    have hskip : skipSpace (bs ++ (cs ++ (ts ++ rest))) = c :: ds := by
      rw [skipSpace_blank hbs, hfirst, skipSpace_cons hspace]
    refine value?_list hskip hclose ?_ (hts.reads _ rest (by omega))
    rw [← hfirst]
    exact hv.reads _ _ (by omega) (hts.cut rest)

/-! ## Objects -/

theorem member?_quote (hkey : text? cs = some (key, ':' :: ds))
    (hv : value? bound levels ds = some (v, rest)) :
    member? (bound + 1) levels ('"' :: cs) = some ((key, v), rest) := by
  have hcolon : skipSpace (':' :: ds) = ':' :: ds := skipSpace_cons rfl ds
  rw [member?, skipSpace_cons rfl]
  simp only [hkey, hcolon, hv, Option.map_some]

theorem members?_next {more : List Char} (hm : member? bound levels cs = some (m, more))
    (hmembers : members? bound levels more = some (members, rest)) :
    members? (bound + 1) levels (',' :: cs) = some (m :: members, rest) := by
  rw [members?, skipSpace_cons rfl]
  simp only [hm, hmembers, Option.map_some]

theorem value?_object {c : Char} {more : List Char} (hskip : skipSpace cs = c :: ds)
    (hc : c ≠ '\x7d') (hm : member? bound levels (c :: ds) = some (m, more))
    (hmembers : members? bound levels more = some (members, rest)) :
    value? (bound + 1) (levels + 1) ('\x7b' :: cs) = some (.object (m :: members), rest) := by
  rw [value?, skipSpace_cons rfl]
  simp [hskip, hc, hm, hmembers, enclosed]

theorem readsMember (key : String) (hbs : Blank bs) (hv : Reads levels cs v) :
    ReadsMember levels ((escaped key).toList ++ ':' :: bs ++ cs) (some key, v) where
  starts rest := by
    rw [escaped, String.toList_ofList]
    exact ⟨_, rfl⟩
  reads bound rest hbound hrest := by
    obtain ⟨bound, rfl⟩ := Nat.exists_eq_add_of_lt hbound
    rw [escaped, String.toList_ofList]
    simp only [List.length_append, List.length_cons, List.cons_append, List.append_assoc,
      List.nil_append]
    refine member?_quote (text?_escaped key _) ?_
    rw [value?_blank hbs]
    exact hv.reads _ _ (by omega) hrest

theorem readsMembers_nil (levels : Nat) (hbs : Blank bs) :
    ReadsMembers levels (bs ++ ['\x7d']) [] where
  cut rest := by
    rw [List.append_assoc]
    exact cut_blank hbs (cut_cons rfl _)
  reads bound rest hbound := by
    obtain ⟨bound, rfl⟩ := Nat.exists_eq_add_of_lt hbound
    rw [List.append_assoc, members?, skipSpace_blank hbs]
    rfl

theorem readsMembers_cons (hbs : Blank bs) (hm : ReadsMember levels cs m)
    (hts : ReadsMembers levels ts members) :
    ReadsMembers levels (',' :: bs ++ cs ++ ts) (m :: members) where
  cut rest := cut_cons rfl _
  reads bound rest hbound := by
    obtain ⟨bound, rfl⟩ := Nat.exists_eq_add_of_lt hbound
    simp only [List.length_append, List.length_cons, List.cons_append, List.append_assoc]
    refine members?_next ?_ (hts.reads _ rest (by omega))
    rw [member?_blank hbs]
    exact hm.reads _ _ (by omega) (hts.cut rest)

theorem reads_object_nil (levels : Nat) : Reads (levels + 1) "\x7b\x7d".toList (.object []) where
  starts rest := ⟨'\x7b', _, rfl, rfl, by decide⟩
  reads bound rest hbound _ := by
    obtain ⟨bound, rfl⟩ := Nat.exists_eq_add_of_lt hbound
    show value? _ (levels + 1) ('\x7b' :: '\x7d' :: rest) = _
    rw [value?]
    rfl

theorem reads_object_cons (hbs : Blank bs) (hm : ReadsMember levels cs m)
    (hts : ReadsMembers levels ts members) :
    Reads (levels + 1) ('\x7b' :: bs ++ cs ++ ts) (.object (m :: members)) where
  starts rest := ⟨'\x7b', _, rfl, rfl, by decide⟩
  reads bound rest hbound _ := by
    obtain ⟨bound, rfl⟩ := Nat.exists_eq_add_of_lt hbound
    obtain ⟨ds, hfirst⟩ := hm.starts (ts ++ rest)
    simp only [List.length_append, List.length_cons, List.cons_append, List.append_assoc]
    have hskip : skipSpace (bs ++ (cs ++ (ts ++ rest))) = '"' :: ds := by
      rw [skipSpace_blank hbs, hfirst, skipSpace_cons rfl]
    refine value?_object hskip (by decide) ?_ (hts.reads _ rest (by omega))
    rw [← hfirst]
    exact hm.reads _ _ (by omega) (hts.cut rest)

/-! ## Items and members in a row -/

variable {es ks : List Char} {text : Json → List Char}

/-- Items that are read by themselves are read in a row. -/
theorem readsItems (hbs : Blank bs) (hes : Blank es) (h : ∀ v ∈ items, Reads levels (text v) v) :
    ReadsItems levels (items.flatMap (fun v => ',' :: bs ++ text v) ++ (es ++ [']'])) items := by
  induction items with
  | nil => exact readsItems_nil levels hes
  | cons v items ih =>
      rw [List.flatMap_cons, List.append_assoc]
      exact readsItems_cons hbs (h v List.mem_cons_self)
        (ih (fun w hw => h w (List.mem_cons_of_mem _ hw)))

/-- A member with its key and a colon. -/
def memberText (ks : List Char) (text : Json → List Char) (m : String × Json) : List Char :=
  (escaped m.1).toList ++ ':' :: ks ++ text m.2

theorem readsMembers {members : List (String × Json)} (hbs : Blank bs) (hes : Blank es)
    (hks : Blank ks) (h : ∀ m ∈ members, Reads levels (text m.2) m.2) :
    ReadsMembers levels
      (members.flatMap (fun m => ',' :: bs ++ memberText ks text m) ++ (es ++ ['\x7d']))
      (members.map (fun m => (some m.1, m.2))) := by
  induction members with
  | nil => exact readsMembers_nil levels hes
  | cons m members ih =>
      rw [List.flatMap_cons, List.append_assoc, List.map_cons]
      exact readsMembers_cons hbs (readsMember m.1 hks (h m List.mem_cons_self))
        (ih (fun w hw => h w (List.mem_cons_of_mem _ hw)))

end Reader

/-! ## Whole documents -/

/-- A value that a reader who may open so many levels gets back: its numbers are whole, its texts
and keys are well formed. -/
inductive Readable : Nat → Json → Prop
  | null {levels : Nat} : Readable levels .null
  | bool {levels : Nat} (b : Bool) : Readable levels (.bool b)
  | number {levels : Nat} (n : Nat) : Readable levels (.ofNat n)
  | text {levels : Nat} (s : String) : Readable levels (.ofString s)
  | list {levels : Nat} {items : List Json} (h : ∀ v ∈ items, Readable levels v) :
    Readable (levels + 1) (.list items)
  | record {levels : Nat} {members : List (String × Json)}
    (h : ∀ m ∈ members, Readable levels m.2) : Readable (levels + 1) (.record members)

theorem Readable.list_of_forall {levels : Nat} {items : List Json}
    (h : items.Forall (Readable levels)) : Readable (levels + 1) (.list items) :=
  .list (List.forall_iff_forall_mem.mp h)

theorem Readable.record_of_forall {levels : Nat} {members : List (String × Json)}
    (h : members.Forall (fun m => Readable levels m.2)) : Readable (levels + 1) (.record members) :=
  .record (List.forall_iff_forall_mem.mp h)

theorem Readable.ofOption {levels : Nat} {α : Type} {f : α → Json}
    (h : ∀ a, Readable levels (f a)) : ∀ a, Readable levels (ofOption f a)
  | none => .null
  | some a => h a

theorem Readable.list_map {levels : Nat} {α : Type} {f : α → Json} (l : List α)
    (h : ∀ a, Readable levels (f a)) : Readable (levels + 1) (.list (l.map f)) :=
  .list (List.forall_mem_map.mpr (fun a _ => h a))

/-! ## Layouts -/

open Reader

/-- A way of writing values, which may put blanks before items and members, before the bracket that
closes them and after the colon of a member. -/
structure Layout where
  write : Nat → Json → List Char
  before : Nat → List Char
  closing : Nat → List Char
  colon : List Char
  blank_before : ∀ level, Blank (before level)
  blank_closing : ∀ level, Blank (closing level)
  blank_colon : Blank colon
  write_null : ∀ level, write level .null = "null".toList
  write_bool : ∀ level b, write level (.bool b) = (if b then "true" else "false").toList
  write_ofNat : ∀ level n, write level (.ofNat n) = Nat.toDigits 10 n
  write_ofString : ∀ level s, write level (.ofString s) = (escaped s).toList
  write_list_nil : ∀ level, write level (.list []) = "[]".toList
  write_list_cons : ∀ level v items, write level (.list (v :: items)) =
    '[' :: before level ++ write (level + 1) v ++
      (items.flatMap (fun v => ',' :: before level ++ write (level + 1) v) ++
        (closing level ++ [']']))
  write_record_nil : ∀ level, write level (.record []) = "\x7b\x7d".toList
  write_record_cons : ∀ level m members, write level (.record (m :: members)) =
    '\x7b' :: before level ++ memberText colon (write (level + 1)) m ++
      (members.flatMap (fun m => ',' :: before level ++ memberText colon (write (level + 1)) m) ++
        (closing level ++ ['\x7d']))

namespace Layout

variable (L : Layout) {levels : Nat} {v : Json}

/-- Whatever the layout, a readable value is read back. -/
theorem reads (h : Readable levels v) (level : Nat) : Reads levels (L.write level v) v := by
  induction h generalizing level with
  | null => rw [L.write_null]; exact reads_null _
  | bool b => rw [L.write_bool]; exact reads_bool _ b
  | number n => rw [L.write_ofNat]; exact reads_numeral _ n
  | text s => rw [L.write_ofString]; exact reads_text _ s
  | @list levels items h ih =>
      cases items with
      | nil => rw [L.write_list_nil]; exact reads_list_nil levels
      | cons v items =>
          rw [L.write_list_cons]
          exact reads_list_cons (L.blank_before level) (ih v List.mem_cons_self (level + 1))
            (readsItems (L.blank_before level) (L.blank_closing level)
              (fun w hw => ih w (List.mem_cons_of_mem _ hw) (level + 1)))
  | @record levels members h ih =>
      cases members with
      | nil => rw [L.write_record_nil]; exact reads_object_nil levels
      | cons m members =>
          rw [L.write_record_cons]
          exact reads_object_cons (L.blank_before level)
            (readsMember m.1 L.blank_colon (ih m List.mem_cons_self (level + 1)))
            (readsMembers (L.blank_before level) (L.blank_closing level) L.blank_colon
              (fun w hw => ih w (List.mem_cons_of_mem _ hw) (level + 1)))

theorem ofText?_write (h : Readable deepestLevel v) {text : String}
    (htext : text.toList = L.write 0 v) : ofText? text = some v := by
  have hread := (L.reads h 0).reads (text.length + 1) [] (by
    rw [← htext, String.length_toList]
    exact Nat.lt_succ_self _) cut_nil
  rw [List.append_nil] at hread
  rw [ofText?, htext, hread]
  rfl

end Layout

/-! ## Indented text -/

theorem blank_newLine (level : Nat) : Blank (newLine level).toList := by
  intro c hc
  simp only [newLine, String.toList_append, String.toList_ofList, List.mem_append] at hc
  rcases hc with hc | hc
  · obtain rfl := List.mem_singleton.mp hc
    rfl
  · obtain rfl := List.eq_of_mem_replicate hc
    rfl

theorem toList_prettyItems (level : Nat) (v : Json) (items : List Json) :
    (prettyItems level (v :: items)).toList =
      (newLine level).toList ++ (prettyAt level v).toList ++
        items.flatMap (fun v => ',' :: (newLine level).toList ++ (prettyAt level v).toList) := by
  induction items generalizing v with
  | nil => simp [prettyItems]
  | cons next items ih => simp [prettyItems, ih]

theorem toList_prettyMembers (level : Nat) (m : String × Json) (members : List (String × Json)) :
    (prettyMembers level ((m :: members).map (fun m => (some m.1, m.2)))).toList =
      (newLine level).toList ++ memberText [' '] (fun v => (prettyAt level v).toList) m ++
        members.flatMap (fun m => ',' :: (newLine level).toList ++
          memberText [' '] (fun v => (prettyAt level v).toList) m) := by
  induction members generalizing m with
  | nil => simp [prettyMembers, memberText]
  | cons next members ih =>
      have hrest := ih next
      rw [List.map_cons] at hrest
      rw [List.map_cons, List.map_cons, prettyMembers, String.toList_append, hrest]
      simp [memberText]

/-- One item or member a line. -/
def prettyLayout : Layout where
  write level v := (prettyAt level v).toList
  before level := (newLine (level + 1)).toList
  closing level := (newLine level).toList
  colon := [' ']
  blank_before level := blank_newLine (level + 1)
  blank_closing := blank_newLine
  blank_colon _ hc := List.mem_singleton.mp hc ▸ rfl
  write_null level := by rw [prettyAt]
  write_bool level b := by rw [prettyAt]
  write_ofNat level n := by rw [ofNat, prettyAt, numeralText_ofNat]
  write_ofString level s := by rw [ofString, prettyAt]; rfl
  write_list_nil level := by rw [prettyAt]; rfl
  write_list_cons level v items := by
    simp [prettyAt, toList_prettyItems]
  write_record_nil level := by rw [record, List.map_nil, prettyAt]; rfl
  write_record_cons level m members := by
    have hmembers := toList_prettyMembers (level + 1) m members
    rw [List.map_cons] at hmembers
    simp [Json.record, prettyAt, hmembers]

theorem ofText?_pretty {v : Json} (h : Readable deepestLevel v) : ofText? v.pretty = some v :=
  prettyLayout.ofText?_write h rfl

/-! ## Compact text -/

theorem toList_compactItems (v : Json) (items : List Json) :
    (compactItems (v :: items)).toList =
      (compact v).toList ++ items.flatMap (fun v => ',' :: (compact v).toList) := by
  induction items generalizing v with
  | nil => simp [compactItems]
  | cons next items ih => simp [compactItems, ih]

theorem toList_compactMembers (m : String × Json) (members : List (String × Json)) :
    (compactMembers ((m :: members).map (fun m => (some m.1, m.2)))).toList =
      memberText [] (fun v => (compact v).toList) m ++
        members.flatMap (fun m => ',' :: memberText [] (fun v => (compact v).toList) m) := by
  induction members generalizing m with
  | nil => simp [compactMembers, memberText]
  | cons next members ih =>
      have hrest := ih next
      rw [List.map_cons] at hrest
      rw [List.map_cons, List.map_cons, compactMembers, String.toList_append, hrest]
      simp [memberText]

/-- No blanks at all. -/
def compactLayout : Layout where
  write _ v := (compact v).toList
  before _ := []
  closing _ := []
  colon := []
  blank_before _ _ hc := (List.not_mem_nil hc).elim
  blank_closing _ _ hc := (List.not_mem_nil hc).elim
  blank_colon _ hc := (List.not_mem_nil hc).elim
  write_null _ := by rw [compact]
  write_bool _ b := by rw [compact]
  write_ofNat _ n := by rw [ofNat, compact, numeralText_ofNat]
  write_ofString _ s := by rw [ofString, compact]; rfl
  write_list_nil _ := by rw [compact]; rfl
  write_list_cons _ v items := by
    simp [compact, toList_compactItems]
  write_record_nil _ := by rw [record, List.map_nil, compact]; rfl
  write_record_cons _ m members := by
    have hmembers := toList_compactMembers m members
    rw [List.map_cons] at hmembers
    simp [Json.record, compact, hmembers]

theorem ofText?_compact {v : Json} (h : Readable deepestLevel v) : ofText? v.compact = some v :=
  compactLayout.ofText?_write h rfl

/-- No two readable values have one compact text. -/
theorem compact_inj {v w : Json} (hv : Readable deepestLevel v) (hw : Readable deepestLevel w) :
    v.compact = w.compact ↔ v = w := by
  refine ⟨fun h => ?_, fun h => h ▸ rfl⟩
  have hread := ofText?_compact hv
  rw [h, ofText?_compact hw] at hread
  exact (Option.some.inj hread).symm

end SpawnForest.Json
