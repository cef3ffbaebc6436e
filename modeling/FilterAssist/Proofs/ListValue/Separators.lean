import Mathlib.Data.List.TakeWhile
import FilterAssist.ListValue

set_option autoImplicit false

/-!
Reading a written list. Commas inside items are escaped, backslashes are not, so an item that ends in a
backslash is read together with the separator after it; every other list of items comes back whole.
-/
namespace FilterAssist.ListValue

def written (item : Text) : Text :=
  item.replaceChar ',' ['\\', ',']

def joined (items : List Text) : Text :=
  Text.joinWith [','] (items.map written)

def Separated (items : List Text) : Prop :=
  ∀ item ∈ items.dropLast, item.getLast? ≠ some '\\'

theorem written_cons (c : Char) (item : Text) :
    written (c :: item) = (if c = ',' then ['\\', ','] else [c]) ++ written item :=
  rfl

theorem written_append (front back : Text) : written (front ++ back) = written front ++ written back :=
  List.flatMap_append

theorem written_head (item rest : Text) (unseparated : item = [] → rest.head? ≠ some ',') :
    (written item ++ rest).head? ≠ some ',' := by
  cases item with
  | nil => exact unseparated rfl
  | cons c item =>
      rw [written_cons]
      by_cases comma : c = ','
      · rw [if_pos comma]
        exact fun same => absurd (Option.some.inj same) (by decide)
      · rw [if_neg comma]
        exact fun same => comma (Option.some.inj same)

theorem cut_escaped (item rest : Text) : cut item ('\\' :: ',' :: rest) = cut (item ++ [',']) rest := by
  rw [cut]

theorem cut_separator (item rest : Text) : cut item (',' :: rest) = item :: cut [] rest := by
  rw [cut]

theorem cut_other (item rest : Text) (c : Char) (other : c ≠ ',') (unescaped : c = '\\' → rest.head? ≠ some ',') :
    cut item (c :: rest) = cut (item ++ [c]) rest := by
  rw [cut]
  · rintro tail rfl rfl
    exact unescaped rfl rfl
  · exact other

theorem cut_written (read item rest : Text) (apart : item.getLast? = some '\\' → rest.head? ≠ some ',') :
    cut read (written item ++ rest) = cut (read ++ item) rest := by
  induction item generalizing read with
  | nil =>
      rw [List.append_nil]
      rfl
  | cons c item ih =>
      have later : cut (read ++ [c]) (written item ++ rest) = cut (read ++ c :: item) rest := by
        rw [ih, List.append_assoc]
        · rfl
        · intro last
          apply apart
          rw [List.getLast?_cons, last]
          rfl
      rw [written_cons, ← later]
      by_cases comma : c = ','
      · rw [if_pos comma, comma]
        exact cut_escaped read (written item ++ rest)
      · rw [if_neg comma]
        refine cut_other read _ c comma (fun backslash => written_head item rest ?_)
        rintro rfl
        exact apart (congrArg some backslash)

theorem cut_written_backslash (read front rest : Text) :
    cut read (written (front ++ ['\\']) ++ ',' :: rest) = cut (read ++ front ++ [',']) rest := by
  have parts : written (front ++ ['\\']) ++ ',' :: rest = written front ++ '\\' :: ',' :: rest := by
    rw [written_append, List.append_assoc]
    rfl
  rw [parts, cut_written, cut_escaped]
  exact fun _ same => absurd (Option.some.inj same) (by decide)

theorem joined_cons (item next : Text) (items : List Text) :
    joined (item :: next :: items) = written item ++ ',' :: joined (next :: items) := by
  rw [joined, List.map_cons, List.map_cons, Text.joinWith, List.append_assoc, List.singleton_append]
  · rfl
  · exact List.cons_ne_nil _ _

theorem separated_cons (item next : Text) (items : List Text) :
    Separated (item :: next :: items) ↔ item.getLast? ≠ some '\\' ∧ Separated (next :: items) := by
  rw [Separated, List.dropLast_cons_cons, List.forall_mem_cons]
  rfl

theorem cut_joined (read item : Text) (items : List Text) (separated : Separated (item :: items)) :
    cut read (joined (item :: items)) = (read ++ item) :: items := by
  induction items generalizing read item with
  | nil =>
      have whole := cut_written read item [] (fun _ none => by cases none)
      rw [List.append_nil] at whole
      exact whole.trans rfl
  | cons next items ih =>
      obtain ⟨apart, later⟩ := (separated_cons item next items).mp separated
      rw [joined_cons, cut_written read item _ (fun last => absurd last apart), cut_separator, ih [] next later,
        List.nil_append]

theorem cut_joined_bound (read item : Text) (items : List Text) :
    (cut read (joined (item :: items))).length ≤ items.length + 1 := by
  induction items generalizing read item with
  | nil =>
      rw [cut_joined read item [] (fun other member => by cases member)]
      exact Nat.le_refl _
  | cons next items ih =>
      rw [joined_cons, List.length_cons]
      by_cases last : item.getLast? = some '\\'
      · obtain ⟨front, rfl⟩ := List.getLast?_eq_some_iff.mp last
        rw [cut_written_backslash]
        exact Nat.le_succ_of_le (ih _ next)
      · rw [cut_written read item _ (fun found => absurd found last), cut_separator, List.length_cons]
        exact Nat.succ_le_succ (ih [] next)

theorem cut_joined_separated (read item : Text) (items : List Text)
    (enough : items.length + 1 ≤ (cut read (joined (item :: items))).length) : Separated (item :: items) := by
  -- Each item that runs into its separator costs a piece, and no piece is ever added.
  induction items generalizing read item with
  | nil => exact fun other member => by cases member
  | cons next items ih =>
      rw [joined_cons, List.length_cons] at enough
      by_cases last : item.getLast? = some '\\'
      · obtain ⟨front, rfl⟩ := List.getLast?_eq_some_iff.mp last
        rw [cut_written_backslash] at enough
        exact absurd (Nat.le_trans enough (cut_joined_bound _ next items)) (Nat.not_succ_le_self _)
      · rw [cut_written read item _ (fun found => absurd found last), cut_separator, List.length_cons] at enough
        exact (separated_cons item next items).mpr ⟨last, ih [] next (Nat.le_of_succ_le_succ enough)⟩

theorem trim_empty_iff (text : Text) : Text.trim text = [] ↔ Text.allBlank text = true := by
  rw [Text.trim, Text.trimEnd, List.reverse_eq_nil_iff, List.dropWhile_eq_nil_iff, Text.allBlank, List.all_eq_true]
  constructor
  · intro blank
    have none : Text.trimStart text = [] := by
      cases start : Text.trimStart text with
      | nil => rfl
      | cons c rest =>
          have first := List.head?_dropWhile_not isBlank text
          rw [← Text.trimStart, start] at first
          rw [start] at blank
          have also := blank c (by simp)
          exact absurd also (by simpa using first)
    rw [Text.trimStart, List.dropWhile_eq_nil_iff] at none
    exact none
  · intro blank c member
    rw [List.mem_reverse, Text.trimStart, List.dropWhile_eq_nil_iff.mpr blank] at member
    cases member

theorem parse_joined_iff (items : List Text) (shown : ∀ item ∈ items, Text.allBlank item = false) :
    parse (joined items) = items.map Text.trim ↔ Separated items := by
  cases items with
  | nil => exact iff_of_true rfl (fun item member => by cases member)
  | cons item items =>
      constructor
      · intro same
        have pieces := congrArg List.length same
        have fewer := List.length_filter_le (fun item => !item.isEmpty) ((cut [] (joined (item :: items))).map Text.trim)
        rw [parse] at pieces
        rw [pieces, List.length_map, List.length_map, List.length_cons] at fewer
        exact cut_joined_separated [] item items fewer
      · intro separated
        rw [parse, cut_joined [] item items separated, List.nil_append, List.filter_eq_self]
        intro trimmed member
        obtain ⟨other, there, rfl⟩ := List.mem_map.mp member
        have filled : Text.trim other ≠ [] := by
          rw [Ne, trim_empty_iff, shown other there]
          exact Bool.false_ne_true
        simpa using filled

structure Plain (mark : Char) : Prop where
  solid : isBlank mark = false
  noComma : mark ≠ ','
  noBackslash : mark ≠ '\\'

theorem cut_count (mark : Char) (plain : Plain mark) (read text : Text) :
    (cut read text).flatten.count mark = read.count mark + text.count mark := by
  fun_induction cut read text with
  | case1 item => simp
  | case2 item rest ih => simp [ih, plain.noComma.symm, plain.noBackslash.symm]
  | case3 item rest ih => simp [ih, plain.noComma.symm]
  | case4 item c rest _ _ ih =>
      rw [ih, List.count_append, List.count_singleton, List.count_cons]
      omega

theorem drop_blanks_count (mark : Char) (plain : Plain mark) (text : Text) :
    (text.dropWhile isBlank).count mark = text.count mark := by
  have none : (text.takeWhile isBlank).count mark = 0 := by
    refine List.count_eq_zero.mpr (fun member => ?_)
    exact absurd (List.mem_takeWhile_imp member) (by rw [plain.solid]; exact Bool.false_ne_true)
  have parts := congrArg (List.count mark) (List.takeWhile_append_dropWhile (p := isBlank) (l := text))
  rwa [List.count_append, none, Nat.zero_add] at parts

theorem trim_count (mark : Char) (plain : Plain mark) (text : Text) : (Text.trim text).count mark = text.count mark := by
  rw [Text.trim, Text.trimEnd, List.count_reverse, drop_blanks_count mark plain, List.count_reverse, Text.trimStart,
    drop_blanks_count mark plain]

theorem parse_count (mark : Char) (plain : Plain mark) (value : Text) :
    (parse value).flatten.count mark = value.count mark := by
  have trimmed : List.count mark ∘ Text.trim = List.count mark := funext (trim_count mark plain)
  rw [parse, List.flatten_filter_not_isEmpty, List.count_flatten, List.map_map, trimmed, ← List.count_flatten,
    cut_count mark plain]
  exact Nat.zero_add _

theorem written_count (mark : Char) (plain : Plain mark) (item : Text) :
    (written item).count mark = item.count mark := by
  induction item with
  | nil => rfl
  | cons c item ih =>
      rw [written_cons, List.count_append, ih]
      by_cases comma : c = ','
      · simp [comma, plain.noComma.symm, plain.noBackslash.symm]
      · rw [if_neg comma, List.count_singleton, List.count_cons, Nat.add_comm]

theorem joined_count (mark : Char) (plain : Plain mark) :
    ∀ items, (joined items).count mark = items.flatten.count mark
  | [] => rfl
  | [item] => by
      rw [List.flatten_singleton]
      exact written_count mark plain item
  | item :: next :: items => by
      rw [joined_cons, List.count_append, List.count_cons_of_ne plain.noComma.symm, written_count mark plain item,
        joined_count mark plain (next :: items), ← List.count_append]
      rfl

theorem format_shown (items : List Text) (shown : ∀ item ∈ items, Text.allBlank item = false) :
    format items = joined items := by
  rw [format, joined, List.filter_eq_self.mpr (fun item member => by rw [shown item member]; rfl)]
  rfl

theorem trimmed_shown (items : List Text) :
    (items.map Text.trim).filter (fun item => !item.isEmpty) =
      (items.filter fun item => !Text.allBlank item).map Text.trim := by
  have same : (fun item : Text => !item.isEmpty) ∘ Text.trim = fun item => !Text.allBlank item := by
    funext item
    have empty : (Text.trim item).isEmpty = Text.allBlank item := by
      rw [Bool.eq_iff_iff, List.isEmpty_iff, trim_empty_iff]
    rw [Function.comp_apply, empty]
  rw [List.filter_map, same]

theorem before_last_iff (items : List Text) (item : Text) :
    item ∈ items.dropLast ↔ ∃ before next after, items = before ++ item :: next :: after := by
  constructor
  · intro member
    obtain ⟨before, between, split⟩ := List.append_of_mem member
    have filled : items ≠ [] := by
      rintro rfl
      cases member
    have whole := List.dropLast_concat_getLast filled
    rw [split, List.append_assoc] at whole
    cases between with
    | nil => exact ⟨before, _, [], whole.symm⟩
    | cons next between => exact ⟨before, next, _, whole.symm⟩
  · rintro ⟨before, next, after, rfl⟩
    rw [List.dropLast_append_cons, List.dropLast_cons_cons]
    exact List.mem_append_right before List.mem_cons_self

theorem separated_shown_iff (items : List Text) :
    Separated (items.filter fun item => !Text.allBlank item) ↔
      ∀ before item after, items = before ++ item :: after → Text.allBlank item = false →
        (∃ later ∈ after, Text.allBlank later = false) → item.getLast? ≠ some '\\' := by
  constructor
  · rintro separated before item after rfl shown ⟨later, member, laterShown⟩
    apply separated item
    have kept : later ∈ after.filter fun item => !Text.allBlank item := List.mem_filter.mpr ⟨member, by simp [laterShown]⟩
    obtain ⟨next, rest, written⟩ := List.exists_cons_of_ne_nil (List.ne_nil_of_mem kept)
    refine (before_last_iff _ item).mpr ⟨before.filter fun item => !Text.allBlank item, next, rest, ?_⟩
    rw [List.filter_append, List.filter_cons_of_pos (by simp [shown]), written]
  · intro apart item member
    obtain ⟨front, next, back, written⟩ := (before_last_iff _ item).mp member
    obtain ⟨before, others, rfl, _, rest⟩ := List.filter_eq_append_iff.mp written
    obtain ⟨skipped, after, rfl, _, shown, left⟩ := List.filter_eq_cons_iff.mp rest
    have later : next ∈ after.filter fun item => !Text.allBlank item := by
      rw [left]
      exact List.mem_cons_self
    obtain ⟨there, laterShown⟩ := List.mem_filter.mp later
    refine apart (before ++ skipped) item after (by simp) (by simpa using shown) ⟨next, there, by simpa using laterShown⟩

theorem written_list_read_back_iff (items : List Text) :
    parse (format items) = (items.map Text.trim).filter (fun item => !item.isEmpty) ↔
      ∀ before item after, items = before ++ item :: after → Text.allBlank item = false →
        (∃ later ∈ after, Text.allBlank later = false) → item.getLast? ≠ some '\\' := by
  have written : format items = joined (items.filter fun item => !Text.allBlank item) := rfl
  have shown : ∀ item ∈ items.filter (fun item => !Text.allBlank item), Text.allBlank item = false := by
    intro item member
    simpa using (List.mem_filter.mp member).2
  rw [written, trimmed_shown, parse_joined_iff _ shown, separated_shown_iff]

end FilterAssist.ListValue
