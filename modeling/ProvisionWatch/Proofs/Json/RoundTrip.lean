import ProvisionWatch.Json.Codec
import ProvisionWatch.Proofs.Json.Reads

/-!
# Values read back from their text

A value that is written on one line is read back as it was, if all its numbers
are whole ones of 64 bits, no object has two members of one name, and lists and
objects lie in each other no deeper than a reader goes.

Main results:

- Theorem `readsBack_of_plain`: the text of a value is read as that value, whatever
  follows it.
- Theorem `read?_compact`: the value of a whole text reads back.
-/

namespace ProvisionWatch
namespace Json

/-! ## Values that read back -/

/-- A value has whole numbers of 64 bits only, no object in it has two members of one name, and
lists and objects lie in each other to a depth at most. -/
inductive Plain : Nat → Json → Prop where
  | null {depth : Nat} : Plain depth .null
  | bool {depth : Nat} (b : Bool) : Plain depth (.bool b)
  | int {depth : Nat} {n : Int} (least : leastWhole ≤ n) (most : n ≤ greatestWhole) :
      Plain depth (.int n)
  | str {depth : Nat} (s : String) : Plain depth (.str s)
  | arr {depth : Nat} {items : List Json} (items_plain : ∀ item ∈ items, Plain depth item) :
      Plain (depth + 1) (.arr items)
  | obj {depth : Nat} {members : List (String × Json)}
      (names : (members.map Prod.fst).Nodup) (members_plain : ∀ m ∈ members, Plain depth m.2) :
      Plain (depth + 1) (.obj members)

/-- Members are plain to a depth, and have some of the given names in their order. -/
structure PlainMembers (depth : Nat) (names : List String) (members : List (String × Json)) :
    Prop where
  named : (members.map Prod.fst).Sublist names
  plain : ∀ m ∈ members, Plain depth m.2

namespace PlainMembers

variable {depth : Nat} {name : String} {names names' : List String}
variable {members members' : List (String × Json)}

theorem nil : PlainMembers depth [] [] :=
  ⟨List.Sublist.refl [], List.forall_mem_nil _⟩

theorem cons {value : Json} (hvalue : Plain depth value) (h : PlainMembers depth names members) :
    PlainMembers depth (name :: names) ((name, value) :: members) :=
  ⟨h.named.cons_cons name, List.forall_mem_cons.mpr ⟨hvalue, h.plain⟩⟩

theorem append (h : PlainMembers depth names members) (h' : PlainMembers depth names' members') :
    PlainMembers depth (names ++ names') (members ++ members') := by
  refine ⟨?_, List.forall_mem_append.mpr ⟨h.plain, h'.plain⟩⟩
  rw [List.map_append]
  exact h.named.append h'.named

/-- A member that may be left out is plain if it is where it is there. -/
theorem optional {α : Type} {encode : α → Json} {o : Option α}
    (h : ∀ a ∈ o, Plain depth (encode a)) :
    PlainMembers depth [name] (optionalMember name encode o) := by
  cases o with
  | none => exact ⟨List.nil_sublist [name], List.forall_mem_nil _⟩
  | some a => exact .cons (h a rfl) .nil

/-- Members of different names make an object. -/
theorem obj (h : PlainMembers depth names members) (hnames : names.Nodup) :
    Plain (depth + 1) (.obj members) :=
  .obj (h.named.nodup hnames) h.plain

end PlainMembers

/-! ## Values as they are written -/

/-- The items after the first as they are written, without the end of the list. -/
def itemsText (items : List Json) : List Char :=
  items.flatMap fun item => ',' :: compactChars item

/-- The items of a list as they are written. -/
def listText : List Json → List Char
  | [] => []
  | item :: rest => compactChars item ++ itemsText rest

/-- A member as it is written. -/
def memberText (m : String × Json) : List Char :=
  quoted m.1 ++ ':' :: compactChars m.2

/-- The members after the first as they are written, without the end of the object. -/
def membersText (members : List (String × Json)) : List Char :=
  members.flatMap fun m => ',' :: memberText m

/-- The members of an object as they are written. -/
def objectText : List (String × Json) → List Char
  | [] => []
  | m :: rest => memberText m ++ membersText rest

theorem compactItems_eq (items : List Json) : compactItems items = itemsText items ++ [']'] := by
  induction items with
  | nil => rfl
  | cons item rest ih => simp [compactItems, itemsText, ih]

theorem compactMembers_eq (members : List (String × Json)) :
    compactMembers members = membersText members ++ ['\x7d'] := by
  induction members with
  | nil => rfl
  | cons m rest ih => simp [compactMembers, membersText, memberText, ih]

theorem compactChars_arr (items : List Json) :
    compactChars (.arr items) = '[' :: listText items ++ [']'] := by
  cases items with
  | nil => rfl
  | cons item rest => simp [compactChars, compactItems_eq, listText]

theorem compactChars_obj (members : List (String × Json)) :
    compactChars (.obj members) = '\x7b' :: objectText members ++ ['\x7d'] := by
  cases members with
  | nil => rfl
  | cons m rest => simp [compactChars, compactMembers_eq, objectText, memberText]

/-! ## Members of one name -/

theorem insert_of_not_mem {name : String} {value : Json} {members : List (String × Json)}
    (h : name ∉ members.map Prod.fst) : insert name value members = members ++ [(name, value)] := by
  induction members with
  | nil => rfl
  | cons m rest ih =>
      obtain ⟨hne, hrest⟩ := List.ne_and_not_mem_of_not_mem_cons h
      rw [insert, if_neg (Ne.symm hne), ih hrest, List.cons_append]

theorem settleItems_eq {items : List Json} (h : ∀ item ∈ items, item.settle = item) :
    settleItems items = items := by
  induction items with
  | nil => rfl
  | cons item rest ih =>
      rw [settleItems, h item List.mem_cons_self, ih fun i hi => h i (List.mem_cons_of_mem _ hi)]

theorem settleMembers_eq (done : List (String × Json)) {members : List (String × Json)}
    (hnames : ((done ++ members).map Prod.fst).Nodup)
    (h : ∀ m ∈ members, m.2.settle = m.2) : settleMembers done members = done ++ members := by
  induction members generalizing done with
  | nil => rw [settleMembers, List.append_nil]
  | cons m rest ih =>
      obtain ⟨name, value⟩ := m
      have hnew : name ∉ done.map Prod.fst := by
        rw [List.map_append, List.map_cons, List.nodup_append] at hnames
        exact fun hmem => hnames.2.2 name hmem name List.mem_cons_self rfl
      have hvalue : value.settle = value := h (name, value) List.mem_cons_self
      rw [settleMembers, hvalue, insert_of_not_mem hnew, ih, List.append_assoc]
      · rfl
      · rwa [List.append_assoc]
      · exact fun m hm => h m (List.mem_cons_of_mem _ hm)

/-- Where no object has two members of one name nothing is to be settled. -/
theorem Plain.settle_eq {depth : Nat} {v : Json} (h : Plain depth v) : v.settle = v := by
  induction h with
  | null | bool | int | str => rfl
  | arr items_plain ih => exact congrArg Json.arr (settleItems_eq ih)
  | obj names members_plain ih =>
      exact congrArg Json.obj (settleMembers_eq [] names ih)

/-! ## What values begin with -/

/-- A text begins a value: its first character is no blank and ends no list. -/
def Begins (text : List Char) : Prop :=
  ∃ c rest, text = c :: rest ∧ Reading.isSpace c = false ∧ c ≠ ']'

theorem Begins.append {text : List Char} (h : Begins text) (after : List Char) :
    Begins (text ++ after) := by
  obtain ⟨c, rest, rfl, hc⟩ := h
  exact ⟨c, rest ++ after, rfl, hc⟩

theorem Begins.length_pos {text : List Char} (h : Begins text) : 0 < text.length := by
  obtain ⟨c, rest, rfl, -⟩ := h
  exact Nat.succ_pos _

theorem isSpace_of_isDigit {c : Char} (hc : Reading.isDigit c = true) :
    Reading.isSpace c = false := by
  refine Bool.eq_false_iff.mpr fun hspace => ?_
  simp only [Reading.isSpace, Bool.or_eq_true, beq_iff_eq] at hspace
  rcases hspace with ((rfl | rfl) | rfl) | rfl <;> cases hc

theorem begins_of_isDigit {c : Char} (hc : Reading.isDigit c = true) (rest : List Char) :
    Begins (c :: rest) := by
  refine ⟨c, rest, rfl, isSpace_of_isDigit hc, ?_⟩
  rintro rfl
  cases hc

/-- The digits of a number begin with one. -/
theorem digits_eq_cons (n : Nat) :
    ∃ c rest, Text.digits n = c :: rest ∧ Reading.isDigit c = true := by
  obtain ⟨c, rest, hdigits⟩ := List.exists_cons_of_ne_nil (Text.digits_ne_nil n)
  exact ⟨c, rest, hdigits,
    Reading.isDigit_of_mem_digits (hdigits ▸ List.mem_cons_self : c ∈ Text.digits n)⟩

theorem compactChars_negSucc (n : Nat) :
    compactChars (.int (.negSucc n)) = '-' :: Text.digits (n + 1) := by
  simp [compactChars, Text.intText, Text.natText]

theorem compactChars_ofNat (n : Nat) : compactChars (.int (.ofNat n)) = Text.digits n := by
  simp [compactChars, Text.intText, Text.natText]

/-- The text of a value begins one. -/
theorem Plain.begins {depth : Nat} {v : Json} (h : Plain depth v) : Begins (compactChars v) := by
  cases h with
  | null => exact ⟨'n', ['u', 'l', 'l'], rfl, by decide, by decide⟩
  | bool b =>
      cases b with
      | true => exact ⟨'t', ['r', 'u', 'e'], rfl, by decide, by decide⟩
      | false => exact ⟨'f', ['a', 'l', 's', 'e'], rfl, by decide, by decide⟩
  | @int _ n =>
      cases n with
      | ofNat n =>
          obtain ⟨c, rest, hdigits, hc⟩ := digits_eq_cons n
          rw [compactChars_ofNat, hdigits]
          exact begins_of_isDigit hc rest
      | negSucc n =>
          rw [compactChars_negSucc]
          exact ⟨'-', _, rfl, by decide, by decide⟩
  | str s => exact ⟨'"', _, rfl, by decide, by decide⟩
  | @arr _ items => exact ⟨'[', _, compactChars_arr items, by decide, by decide⟩
  | @obj _ members => exact ⟨'\x7b', _, compactChars_obj members, by decide, by decide⟩

namespace Reading

variable {after : List Char} {v : Json} {fuel depth : Nat}

/-! ## Values that are no lists or objects -/

theorem reads_scalar?_null (after : List Char) :
    Reads scalar? ['n', 'u', 'l', 'l'] after (some .null) := by
  have hdigit : isDigit 'n' = false := by decide
  refine (reads_peekToken (c := 'n') (by decide) _).first ?_
  simp only [hdigit, Char.reduceEq, Bool.false_eq_true, if_false, if_true]
  exact (reads_advance 'n' _).bind
    ((reads_restOfNull after).last (.pure _ after))

theorem reads_scalar?_true (after : List Char) :
    Reads scalar? ['t', 'r', 'u', 'e'] after (some (.bool true)) := by
  have hdigit : isDigit 't' = false := by decide
  refine (reads_peekToken (c := 't') (by decide) _).first ?_
  simp only [hdigit, Char.reduceEq, Bool.false_eq_true, if_false, if_true]
  exact (reads_advance 't' _).bind
    ((reads_restOfTrue after).last (.pure _ after))

theorem reads_scalar?_false (after : List Char) :
    Reads scalar? ['f', 'a', 'l', 's', 'e'] after (some (.bool false)) := by
  have hdigit : isDigit 'f' = false := by decide
  refine (reads_peekToken (c := 'f') (by decide) _).first ?_
  simp only [hdigit, Char.reduceEq, Bool.false_eq_true, if_false, if_true]
  exact (reads_advance 'f' _).bind
    ((reads_restOfFalse after).last (.pure _ after))

theorem reads_scalar?_str (s : String) (after : List Char) :
    Reads scalar? (quoted s) after (some (.str s)) := by
  refine (reads_peekToken (c := '"') (by decide) _).first ?_
  simp only [if_true]
  exact (reads_advance '"' _).bind ((reads_string s after).last (.pure _ after))

theorem reads_scalar?_ofNat {n : Nat} (hn : n ≤ mostDigits) (hafter : EndsNumber after) :
    Reads scalar? (Text.digits n) after (some (.int n)) := by
  obtain ⟨c, rest, hdigits, hc⟩ := digits_eq_cons n
  have hnumber := reads_number_ofNat hn hafter
  rw [hdigits] at hnumber ⊢
  have hquote : c ≠ '"' := by
    rintro rfl
    cases hc
  have hminus : c ≠ '-' := by
    rintro rfl
    cases hc
  refine (reads_peekToken (isSpace_of_isDigit hc) _).first ?_
  simp only [hquote, hminus, hc, if_false, if_true]
  exact hnumber.last (.pure _ after)

theorem reads_scalar?_negSucc {n : Nat} (hn : leastWhole ≤ .negSucc n)
    (hafter : EndsNumber after) :
    Reads scalar? ('-' :: Text.digits (n + 1)) after (some (.int (.negSucc n))) := by
  refine (reads_peekToken (c := '-') (by decide) _).first ?_
  simp only [Char.reduceEq, if_false, if_true]
  exact (reads_advance '-' _).bind ((reads_number_negSucc hn hafter).last (.pure _ after))

/-- Lists and objects are no such values. -/
theorem reads_scalar?_none {c : Char} (hc : c = '[' ∨ c = '\x7b') (rest : List Char) :
    Reads scalar? [] (c :: rest) none := by
  have hspace : isSpace c = false := by
    rcases hc with rfl | rfl <;> decide
  refine (reads_peekToken hspace rest).first ?_
  rcases hc with rfl | rfl
  · have hdigit : isDigit '[' = false := by decide
    simp only [hdigit, Char.reduceEq, Bool.false_eq_true, if_false]
    exact .pure _ _
  · have hdigit : isDigit '\x7b' = false := by decide
    simp only [hdigit, Char.reduceEq, Bool.false_eq_true, if_false]
    exact .pure _ _

/-! ## Lists -/

/-- A value reads back at some depth, whatever follows it. -/
def ReadsBack (depth : Nat) (v : Json) : Prop :=
  ∀ (fuel : Nat) (after : List Char), 2 * (compactChars v).length ≤ fuel → EndsNumber after →
    Reads (valueFrom fuel depth) (compactChars v) after v

theorem reads_nextItem_first (h : Begins after) : Reads (nextItem true) [] after true := by
  obtain ⟨c, rest, rfl, hspace, hc⟩ := h
  refine (reads_peekToken hspace rest).first ?_
  split
  · rename_i heq
    cases heq
  · rename_i heq
    exact absurd (Option.some.inj heq) hc
  · exact .pure true _

theorem reads_nextItem_more (h : Begins after) : Reads (nextItem false) [','] after true := by
  obtain ⟨c, rest, rfl, hspace, hc⟩ := h
  refine (reads_peekToken (c := ',') (by decide) _).first ?_
  simp only [Bool.false_eq_true, if_false]
  refine (reads_advance ',' _).last ((reads_peekToken hspace rest).last ?_)
  split
  · rename_i heq
    cases heq
  · rename_i heq
    exact absurd (Option.some.inj heq) hc
  · exact .pure true _

theorem reads_nextItem_none (first : Bool) (after : List Char) :
    Reads (nextItem first) [] (']' :: after) false := by
  refine (reads_peekToken (c := ']') (by decide) after).first ?_
  exact .pure false _

theorem reads_listEnd (after : List Char) : Reads listEnd [']'] after () := by
  refine (reads_peekToken (c := ']') (by decide) after).first ?_
  exact reads_advance ']' after

theorem endsNumber_itemsText (items : List Json) (after : List Char) :
    EndsNumber (itemsText items ++ ']' :: after) := by
  cases items with
  | nil => exact fun c hc => Option.some.inj hc ▸ (by decide)
  | cons item rest => exact fun c hc => Option.some.inj hc ▸ (by decide)

/-- The items after the first are read as they are written. -/
theorem reads_itemsFrom {items : List Json} (hitems : ∀ item ∈ items, ReadsBack depth item)
    (hbegins : ∀ item ∈ items, Begins (compactChars item))
    (hfuel : 2 * (itemsText items).length < fuel) (done : List Json) (after : List Char) :
    Reads (itemsFrom fuel depth false done) (itemsText items) (']' :: after)
      (.arr (done.reverse ++ items)) := by
  induction items generalizing fuel done with
  | nil =>
      obtain ⟨fuel, rfl⟩ := Nat.exists_eq_add_of_lt hfuel
      rw [itemsFrom, List.append_nil]
      refine (reads_nextItem_none false after).first ?_
      exact .pure _ _
  | cons item rest ih =>
      cases fuel with
      | zero => cases hfuel
      | succ fuel =>
          rw [itemsText, List.flatMap_cons, List.cons_append, List.length_cons,
            List.length_append, ← itemsText] at hfuel
          have hbegin := (hbegins item List.mem_cons_self).append (itemsText rest)
          have hitem := hitems item List.mem_cons_self fuel (itemsText rest ++ ']' :: after)
            (by omega) (endsNumber_itemsText rest after)
          have hrest := ih (fun i hi => hitems i (List.mem_cons_of_mem _ hi))
            (fun i hi => hbegins i (List.mem_cons_of_mem _ hi)) (show _ < fuel by omega)
            (item :: done)
          rw [List.reverse_cons, List.append_assoc] at hrest
          rw [itemsFrom, itemsText, List.flatMap_cons]
          exact (reads_nextItem_more (hbegin.append (']' :: after))).bind (hitem.bind hrest)

/-- All items of a list are read as they are written. -/
theorem reads_listText {items : List Json} (hitems : ∀ item ∈ items, ReadsBack depth item)
    (hbegins : ∀ item ∈ items, Begins (compactChars item))
    (hfuel : 2 * (listText items).length < fuel) (after : List Char) :
    Reads (itemsFrom fuel depth true []) (listText items) (']' :: after) (.arr items) := by
  cases fuel with
  | zero => cases hfuel
  | succ fuel =>
      rw [itemsFrom]
      cases items with
      | nil =>
          refine (reads_nextItem_none true after).first ?_
          exact .pure _ _
      | cons item rest =>
          rw [listText] at hfuel ⊢
          rw [List.length_append] at hfuel
          have hbegin := hbegins item List.mem_cons_self
          have hpos := hbegin.length_pos
          have hitem := hitems item List.mem_cons_self fuel (itemsText rest ++ ']' :: after)
            (by omega) (endsNumber_itemsText rest after)
          have hrest := reads_itemsFrom (fun i hi => hitems i (List.mem_cons_of_mem _ hi))
            (fun i hi => hbegins i (List.mem_cons_of_mem _ hi)) (show _ < fuel by omega) [item]
            after
          exact (reads_nextItem_first
            ((hbegin.append (itemsText rest)).append (']' :: after))).first (hitem.bind hrest)

/-- There is room to go into a list or an object. -/
theorem reads_enter (hdepth : 0 < depth) (c : Char) (after : List Char) :
    Reads (enter (depth + 1)) [c] after () := by
  have hdeep : ¬depth + 1 ≤ 1 := by omega
  rw [enter, if_neg hdeep]
  exact reads_advance c after

/-- A list is read as it is written if its items are. -/
theorem readsBack_arr {items : List Json} (hdepth : 0 < depth)
    (hitems : ∀ item ∈ items, ReadsBack depth item)
    (hbegins : ∀ item ∈ items, Begins (compactChars item)) :
    ReadsBack (depth + 1) (.arr items) := by
  intro fuel after hfuel _
  rw [compactChars_arr, List.length_append, List.length_cons] at hfuel
  cases fuel with
  | zero => simp at hfuel
  | succ fuel =>
      have hlist := reads_listText hitems hbegins (show _ < fuel by omega) after
      rw [compactChars_arr, valueFrom]
      refine (reads_scalar?_none (.inl rfl) _).first ((reads_peek _).first ?_)
      exact (reads_enter hdepth '[' _).bind (hlist.closedBy (reads_listEnd after))

/-! ## Objects -/

theorem reads_nextName_first (name : String) (after : List Char) :
    Reads (nextName true) (quoted name) after (some name) := by
  refine (reads_peekToken (c := '"') (by decide) _).first ?_
  exact (reads_advance '"' _).bind ((reads_string name after).map some)

theorem reads_nextName_more (name : String) (after : List Char) :
    Reads (nextName false) (',' :: quoted name) after (some name) := by
  refine (reads_peekToken (c := ',') (by decide) _).first ?_
  simp only [Bool.false_eq_true, if_false]
  refine (reads_advance ',' (quoted name ++ after)).bind
    ((reads_peekToken (c := '"') (by decide) _).first ?_)
  exact (reads_advance '"' _).bind ((reads_string name after).map some)

theorem reads_nextName_none (first : Bool) (after : List Char) :
    Reads (nextName first) [] ('\x7d' :: after) none := by
  refine (reads_peekToken (c := '\x7d') (by decide) after).first ?_
  exact .pure none _

theorem reads_colon (after : List Char) : Reads colon [':'] after () := by
  refine (reads_peekToken (c := ':') (by decide) after).first ?_
  exact reads_advance ':' after

theorem reads_objectEnd (after : List Char) : Reads objectEnd ['\x7d'] after () := by
  refine (reads_peekToken (c := '\x7d') (by decide) after).first ?_
  exact reads_advance '\x7d' after

theorem endsNumber_membersText (members : List (String × Json)) (after : List Char) :
    EndsNumber (membersText members ++ '\x7d' :: after) := by
  cases members with
  | nil => exact fun c hc => Option.some.inj hc ▸ (by decide)
  | cons m rest => exact fun c hc => Option.some.inj hc ▸ (by decide)

/-- The members after the first are read as they are written. -/
theorem reads_membersFrom {members : List (String × Json)}
    (hmembers : ∀ m ∈ members, ReadsBack depth m.2)
    (hfuel : 2 * (membersText members).length < fuel) (done : List (String × Json))
    (after : List Char) :
    Reads (membersFrom fuel depth false done) (membersText members) ('\x7d' :: after)
      (.obj (done.reverse ++ members)) := by
  induction members generalizing fuel done with
  | nil =>
      obtain ⟨fuel, rfl⟩ := Nat.exists_eq_add_of_lt hfuel
      rw [membersFrom, List.append_nil]
      refine (reads_nextName_none false after).first ?_
      exact .pure _ _
  | cons m rest ih =>
      cases fuel with
      | zero => cases hfuel
      | succ fuel =>
          rw [membersText, List.flatMap_cons, List.cons_append, List.length_cons,
            List.length_append, memberText, List.length_append, List.length_cons,
            ← membersText] at hfuel
          have hvalue := hmembers m List.mem_cons_self fuel (membersText rest ++ '\x7d' :: after)
            (by omega) (endsNumber_membersText rest after)
          have hrest := ih (fun i hi => hmembers i (List.mem_cons_of_mem _ hi)) 
            (show _ < fuel by omega) (m :: done)
          rw [List.reverse_cons, List.append_assoc] at hrest
          have htext : ',' :: memberText m ++ membersText rest =
              (',' :: quoted m.1) ++ ([':'] ++ (compactChars m.2 ++ membersText rest)) := by
            simp [memberText]
          rw [membersFrom, membersText, List.flatMap_cons, ← membersText, htext]
          exact (reads_nextName_more m.1 _).bind ((reads_colon _).bind (hvalue.bind hrest))

/-- All members of an object are read as they are written. -/
theorem reads_objectText {members : List (String × Json)}
    (hmembers : ∀ m ∈ members, ReadsBack depth m.2)
    (hfuel : 2 * (objectText members).length < fuel) (after : List Char) :
    Reads (membersFrom fuel depth true []) (objectText members) ('\x7d' :: after)
      (.obj members) := by
  cases fuel with
  | zero => cases hfuel
  | succ fuel =>
      rw [membersFrom]
      cases members with
      | nil =>
          refine (reads_nextName_none true after).first ?_
          exact .pure _ _
      | cons m rest =>
          rw [objectText, List.length_append, memberText, List.length_append,
            List.length_cons] at hfuel
          have hvalue := hmembers m List.mem_cons_self fuel (membersText rest ++ '\x7d' :: after)
            (by omega) (endsNumber_membersText rest after)
          have hrest := reads_membersFrom (fun i hi => hmembers i (List.mem_cons_of_mem _ hi))
            (show _ < fuel by omega) [m] after
          have htext : objectText (m :: rest) =
              quoted m.1 ++ ([':'] ++ (compactChars m.2 ++ membersText rest)) := by
            simp [objectText, memberText]
          rw [htext]
          exact (reads_nextName_first m.1 _).bind ((reads_colon _).bind (hvalue.bind hrest))

/-- An object is read as it is written if its members are. -/
theorem readsBack_obj {members : List (String × Json)} (hdepth : 0 < depth)
    (hmembers : ∀ m ∈ members, ReadsBack depth m.2) : ReadsBack (depth + 1) (.obj members) := by
  intro fuel after hfuel _
  rw [compactChars_obj, List.length_append, List.length_cons] at hfuel
  cases fuel with
  | zero => simp at hfuel
  | succ fuel =>
      have hobject := reads_objectText hmembers (show _ < fuel by omega) after
      rw [compactChars_obj, valueFrom]
      refine (reads_scalar?_none (.inr rfl) _).first ((reads_peek _).first ?_)
      exact (reads_enter hdepth '\x7b' _).bind (hobject.closedBy (reads_objectEnd after))

/-! ## Whole texts -/

/-- A value that is no list or object reads back at any depth. -/
theorem readsBack_of_scalar
    (h : ∀ after, EndsNumber after → Reads scalar? (compactChars v) after (some v))
    (hbegins : Begins (compactChars v)) : ReadsBack depth v := by
  intro fuel after hfuel hafter
  have hpos := hbegins.length_pos
  cases fuel with
  | zero => omega
  | succ fuel =>
      rw [valueFrom]
      exact (h after hafter).last (.pure v after)

/-- The text of a value is read as that value, whatever follows it. -/
theorem readsBack_of_plain {nesting : Nat} (h : Plain nesting v) (hdepth : nesting < depth) :
    ReadsBack depth v := by
  induction h generalizing depth with
  | null =>
      exact readsBack_of_scalar (fun after _ => reads_scalar?_null after)
        (Plain.null : Plain 0 _).begins
  | bool b =>
      refine readsBack_of_scalar (fun after _ => ?_) (Plain.bool b : Plain 0 _).begins
      cases b with
      | true => exact reads_scalar?_true after
      | false => exact reads_scalar?_false after
  | @int _ n least most =>
      refine readsBack_of_scalar (fun after hafter => ?_) (Plain.int least most : Plain 0 _).begins
      cases n with
      | ofNat n =>
          rw [compactChars_ofNat]
          exact reads_scalar?_ofNat (Int.ofNat_le.mp most) hafter
      | negSucc n =>
          rw [compactChars_negSucc]
          exact reads_scalar?_negSucc least hafter
  | str s =>
      exact readsBack_of_scalar (fun after _ => reads_scalar?_str s after)
        (Plain.str s : Plain 0 _).begins
  | @arr nesting items items_plain ih =>
      cases depth with
      | zero => cases hdepth
      | succ depth =>
          exact readsBack_arr (by omega) (fun item hitem => ih item hitem (by omega))
            fun item hitem => (items_plain item hitem).begins
  | @obj nesting members names members_plain ih =>
      cases depth with
      | zero => cases hdepth
      | succ depth => exact readsBack_obj (by omega) fun m hm => ih m hm (by omega)

/-- A whole text is read if a reading takes all of it. -/
theorem whole_of_reads {α : Type} {r : Reading α} {a : α} {s : String}
    (h : Reads r s.toList [] a) : whole r s = .ok a := by
  have hend : Reads textEnd [] [] () := by
    refine reads_peekToken_nil.first ?_
    exact .pure () []
  have hwhole : Reads (do let a ← r; textEnd; return a) s.toList [] a :=
    h.last (hend.last (.pure a []))
  obtain ⟨c, hc, -⟩ := hwhole (Cursor.start s) (Cursor.sound_start s) (List.append_nil _).symm
  rw [whole, run, hc]

end Reading

/-- A value of which all is plain reads back when it is written on one line. -/
theorem read?_compact {nesting : Nat} {v : Json} (h : Plain nesting v)
    (hnesting : nesting < Reading.depthLimit) : read? v.compact = some v := by
  have htext : v.compact.toList = compactChars v := String.toList_ofList
  have hvalue : Reading.Reads (Reading.value Reading.depthLimit) v.compact.toList [] v := by
    intro c hc hrest
    rw [htext] at hrest
    have hfuel : 2 * (compactChars v).length ≤ 2 * c.left + 2 := by
      rw [hc, hrest, List.length_append]
      omega
    exact Reading.readsBack_of_plain h hnesting _ [] hfuel (by simp [Reading.EndsNumber]) c hc
      hrest
  rw [read?, Reading.whole_of_reads hvalue]
  exact congrArg some h.settle_eq

end Json
end ProvisionWatch
