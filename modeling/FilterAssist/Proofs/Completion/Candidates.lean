import Mathlib
import FilterAssist.Proofs.Completion.ReplacedText

set_option autoImplicit false

/-!
The candidates of a completion: every word that fits, once, in alphabetical order. A word of several
categories is offered under the first of them, because sorting keeps words with one spelling in the order in
which the categories are gone through, and only the first of neighbours with one spelling is kept.
-/
namespace FilterAssist

def labelKey (label : Text) : Text ×ₗ Text :=
  toLex (lowerCase label, label)

def offerOrder : List WordCategory :=
  [.operator, .logical, .target, .unary, .keyword, .punctuationControl]

def sortWords (entries : List (Word × WordCategory)) : List (Word × WordCategory) :=
  entries.mergeSort fun a b => a.1.le b.1

def Candidate.ofWord (entry : Word × WordCategory) : Candidate :=
  ⟨entry.1.text, some entry.2⟩

theorem completion_candidates_parts (vocabulary : Vocabulary) (typed : Text) (previous : Option Token) :
    completionCandidates vocabulary typed previous =
      dropRepeats ((sortWords (offeredWords vocabulary typed (candidateCategories previous))).map Candidate.ofWord) :=
  rfl

theorem text_le_false_iff (a b : Text) : Text.le a b = false ↔ b < a := by
  induction a generalizing b with
  | nil => simp [Text.le]
  | cons x xs ih =>
      cases b with
      | nil => simp [Text.le]
      | cons y ys =>
          have less : y < x ↔ y.toNat < x.toNat := Iff.rfl
          rw [List.cons_lt_cons_iff, less, Text.le]
          by_cases below : x.toNat < y.toNat
          · have other : y ≠ x := by
              rintro rfl
              exact Nat.lt_irrefl _ below
            simp [below, other, Nat.le_of_lt below]
          · by_cases above : y.toNat < x.toNat
            · simp [below, above]
            · have same : y = x := Char.toNat_inj.mp (by omega)
              simp [same, ih]

theorem text_le_iff (a b : Text) : Text.le a b = true ↔ a ≤ b := by
  rw [← not_lt, ← text_le_false_iff, Bool.not_eq_false]

theorem label_key_inj (a b : Text) (same : labelKey a = labelKey b) : a = b :=
  (Prod.mk.inj (toLex.injective same)).2

theorem word_le_iff (a b : Word) : a.le b = true ↔ labelKey a.text ≤ labelKey b.text := by
  rw [labelKey, labelKey, Prod.Lex.toLex_le_toLex, Word.le, a.folded_eq, b.folded_eq]
  by_cases same : lowerCase a.text = lowerCase b.text
  · simp [same, text_le_iff]
  · simp [same, text_le_iff, le_iff_lt_or_eq]

theorem word_le_trans (a b c : Word) (first : a.le b = true) (second : b.le c = true) : a.le c = true := by
  rw [word_le_iff] at first second ⊢
  exact le_trans first second

theorem word_le_total (a b : Word) : (a.le b || b.le a) = true := by
  rw [Bool.or_eq_true, word_le_iff, word_le_iff]
  exact le_total _ _

theorem sort_words_sorted (entries : List (Word × WordCategory)) :
    (sortWords entries).Pairwise fun a b => labelKey a.1.text ≤ labelKey b.1.text := by
  have sorted := List.pairwise_mergeSort (fun a b c => word_le_trans a.1 b.1 c.1) (fun a b => word_le_total a.1 b.1) entries
  exact sorted.imp (fun ordered => (word_le_iff _ _).mp ordered)

theorem sort_words_stable (entries : List (Word × WordCategory)) (label : Text) :
    (sortWords entries).find? (fun entry => decide (entry.1.text = label)) =
      entries.find? fun entry => decide (entry.1.text = label) := by
  have alike : (entries.filter fun entry => decide (entry.1.text = label)).Pairwise fun a b => a.1.le b.1 = true := by
    refine List.pairwise_of_forall_mem_list (fun a here b there => ?_)
    rw [List.mem_filter, decide_eq_true_eq] at here there
    rw [word_le_iff, here.2, there.2]
  have kept := (List.sublist_mergeSort (fun a b c => word_le_trans a.1 b.1 c.1) (fun a b => word_le_total a.1 b.1) alike
    List.filter_sublist).filter fun entry => decide (entry.1.text = label)
  simp only [List.filter_filter, Bool.and_self] at kept
  have count := ((List.mergeSort_perm entries fun a b => a.1.le b.1).filter fun entry => decide (entry.1.text = label)).length_eq
  rw [sortWords, ← List.head?_filter, ← List.head?_filter, kept.eq_of_length count.symm]

theorem drop_repeats_cases (candidate : Candidate) (rest : List Candidate) :
    (dropRepeats (candidate :: rest) = candidate :: dropRepeats rest ∧
        ∀ next, (dropRepeats rest).head? = some next → next.label ≠ candidate.label) ∨
      ∃ next others, dropRepeats rest = next :: others ∧ next.label = candidate.label ∧
        dropRepeats (candidate :: rest) = candidate :: others := by
  rw [dropRepeats]
  cases dropped : dropRepeats rest with
  | nil => exact .inl ⟨rfl, fun next first => by cases first⟩
  | cons next others =>
      by_cases same : next.label = candidate.label
      · exact .inr ⟨next, others, rfl, same, if_pos same⟩
      · refine .inl ⟨if_neg same, fun other first => ?_⟩
        cases first
        exact same

theorem drop_repeats_tail (candidate : Candidate) (rest : List Candidate) :
    ∃ tail, dropRepeats (candidate :: rest) = candidate :: tail ∧ tail.Sublist (dropRepeats rest) := by
  rcases drop_repeats_cases candidate rest with ⟨kept, _⟩ | ⟨next, others, dropped, _, replaced⟩
  · exact ⟨_, kept, List.Sublist.refl _⟩
  · rw [dropped]
    exact ⟨others, replaced, List.sublist_cons_self next others⟩

theorem drop_repeats_labels (candidates : List Candidate) (label : Text) :
    label ∈ (dropRepeats candidates).map Candidate.label ↔ label ∈ candidates.map Candidate.label := by
  induction candidates with
  | nil => rfl
  | cons candidate rest ih =>
      rcases drop_repeats_cases candidate rest with ⟨kept, _⟩ | ⟨next, others, dropped, same, replaced⟩
      · rw [kept, List.map_cons, List.map_cons, List.mem_cons, List.mem_cons, ih]
      · rw [dropped, List.map_cons, List.mem_cons, same] at ih
        rw [replaced, List.map_cons, List.map_cons, List.mem_cons, List.mem_cons, ← ih, ← or_assoc, or_self]

theorem drop_repeats_strict (candidates : List Candidate)
    (sorted : candidates.Pairwise fun a b => labelKey a.label ≤ labelKey b.label) :
    (dropRepeats candidates).Pairwise fun a b => labelKey a.label < labelKey b.label := by
  induction candidates with
  | nil => exact .nil
  | cons candidate rest ih =>
      obtain ⟨first, later⟩ := List.pairwise_cons.mp sorted
      have strict := ih later
      rcases drop_repeats_cases candidate rest with ⟨kept, other⟩ | ⟨next, others, dropped, same, replaced⟩
      · rw [kept]
        refine List.pairwise_cons.mpr ⟨fun further member => ?_, strict⟩
        cases dropped : dropRepeats rest with
        | nil =>
            rw [dropped] at member
            cases member
        | cons next others =>
            rw [dropped] at member strict other
            have there : next ∈ rest := (drop_repeats_sublist rest).subset (by rw [dropped]; exact List.mem_cons_self)
            have below : labelKey candidate.label < labelKey next.label := by
              refine lt_of_le_of_ne (first next there) (fun same => ?_)
              exact other next rfl (label_key_inj _ _ same).symm
            rcases List.mem_cons.mp member with rfl | beyond
            · exact below
            · exact below.trans ((List.pairwise_cons.mp strict).1 further beyond)
      · rw [dropped] at strict
        rw [replaced]
        obtain ⟨above, rest⟩ := List.pairwise_cons.mp strict
        rw [same] at above
        exact List.pairwise_cons.mpr ⟨above, rest⟩

theorem drop_repeats_first (candidates : List Candidate)
    (sorted : candidates.Pairwise fun a b => labelKey a.label ≤ labelKey b.label) (candidate : Candidate)
    (kept : candidate ∈ dropRepeats candidates) :
    candidates.find? (fun other => decide (other.label = candidate.label)) = some candidate := by
  -- Equal labels are neighbours in a sorted list, so the candidate that is kept is the first one with its label.
  induction candidates with
  | nil => cases kept
  | cons first rest ih =>
      have strict := drop_repeats_strict (first :: rest) sorted
      obtain ⟨tail, shape, deeper⟩ := drop_repeats_tail first rest
      rw [shape] at strict kept
      rcases List.mem_cons.mp kept with rfl | inside
      · exact List.find?_cons_of_pos (by simp)
      · have other : first.label ≠ candidate.label := by
          intro same
          have below := (List.pairwise_cons.mp strict).1 candidate inside
          rw [same] at below
          exact lt_irrefl _ below
        rw [List.find?_cons_of_neg (by simpa using other)]
        exact ih (List.pairwise_cons.mp sorted).2 (deeper.subset inside)

theorem continues_iff (word : Word) (typed : Text) :
    word.continues typed (lowerCase typed) = true ↔
      word.text.length ≠ typed.length ∧ lowerCase typed <+: lowerCase word.text := by
  rw [Word.continues, Bool.and_eq_true, bne_iff_ne, List.isPrefixOf_iff_prefix, word.folded_eq]

theorem offered_words_iff (vocabulary : Vocabulary) (typed : Text) (categories : List WordCategory) (label : Text) :
    (∃ entry ∈ offeredWords vocabulary typed categories, entry.1.text = label) ↔
      (∃ category ∈ categories, label ∈ vocabulary.words category) ∧
        label.length ≠ typed.length ∧ lowerCase typed <+: lowerCase label := by
  constructor
  · rintro ⟨⟨word, category⟩, offered, rfl⟩
    obtain ⟨allowed, present, continues⟩ := (offered_words_mem vocabulary typed categories word category).mp offered
    exact ⟨⟨category, allowed, List.mem_map_of_mem present⟩, (continues_iff word typed).mp continues⟩
  · rintro ⟨⟨category, allowed, listed⟩, continues⟩
    obtain ⟨word, present, rfl⟩ := List.mem_map.mp listed
    refine ⟨(word, category), (offered_words_mem vocabulary typed categories word category).mpr ?_, rfl⟩
    exact ⟨allowed, present, (continues_iff word typed).mpr continues⟩

theorem offered_words_first (vocabulary : Vocabulary) (typed : Text) (categories : List WordCategory) (label : Text)
    (continues : label.length ≠ typed.length ∧ lowerCase typed <+: lowerCase label) :
    ((offeredWords vocabulary typed categories).find? fun entry => decide (entry.1.text = label)).map Prod.snd =
      categories.find? fun category => decide (label ∈ vocabulary.words category) := by
  induction categories with
  | nil => rfl
  | cons category rest ih =>
      have parts : offeredWords vocabulary typed (category :: rest) =
          offeredWords vocabulary typed [category] ++ offeredWords vocabulary typed rest := by
        rw [offeredWords, offeredWords, offeredWords, ← List.flatMap_append, List.singleton_append]
      have here := offered_words_iff vocabulary typed [category] label
      rw [parts, List.find?_append, List.find?_cons]
      cases found : (offeredWords vocabulary typed [category]).find? fun entry => decide (entry.1.text = label) with
      | none =>
          have unlisted : label ∉ vocabulary.words category := by
            intro listed
            obtain ⟨entry, offered, same⟩ := here.mpr ⟨⟨category, List.mem_singleton_self category, listed⟩, continues⟩
            exact List.find?_eq_none.mp found entry offered (decide_eq_true same)
          rw [Option.none_or, ih, decide_eq_false unlisted]
      | some entry =>
          obtain ⟨word, other⟩ := entry
          have same : word.text = label := by simpa using List.find?_some found
          have offered := List.mem_of_find?_eq_some found
          have only := ((offered_words_mem vocabulary typed [category] word other).mp offered).1
          obtain ⟨⟨_, single, listed⟩, _⟩ := here.mp ⟨(word, other), offered, same⟩
          rw [List.mem_singleton.mp single] at listed
          rw [Option.some_or, decide_eq_true listed, List.mem_singleton.mp only]
          rfl

theorem categories_in_offer_order (previous : Option Token) :
    (offerOrder.filter fun category => decide (category ∈ candidateCategories previous)) = candidateCategories previous := by
  unfold candidateCategories
  dsimp only
  split_ifs <;> rfl

theorem words_sorted_by_label (entries : List (Word × WordCategory)) :
    ((sortWords entries).map Candidate.ofWord).Pairwise fun a b => labelKey a.label ≤ labelKey b.label :=
  List.pairwise_map.mpr (sort_words_sorted entries)

theorem completion_labels_iff (vocabulary : Vocabulary) (typed : Text) (previous : Option Token) (label : Text) :
    label ∈ (completionCandidates vocabulary typed previous).map Candidate.label ↔
      (∃ category ∈ candidateCategories previous, label ∈ vocabulary.words category) ∧
        label.length ≠ typed.length ∧ lowerCase typed <+: lowerCase label := by
  rw [completion_candidates_parts, drop_repeats_labels, List.map_map, List.mem_map, ← offered_words_iff]
  simp only [sortWords, List.mem_mergeSort]
  rfl

theorem completion_category_first (vocabulary : Vocabulary) (typed : Text) (previous : Option Token) (item : Candidate)
    (listed : item ∈ completionCandidates vocabulary typed previous) :
    item.category =
      (candidateCategories previous).find? fun category => decide (item.label ∈ vocabulary.words category) := by
  have continues := ((completion_labels_iff vocabulary typed previous item.label).mp (List.mem_map_of_mem listed)).2
  have first := drop_repeats_first _ (words_sorted_by_label _) item listed
  rw [List.find?_map, Option.map_eq_some_iff] at first
  obtain ⟨entry, found, rfl⟩ := first
  rw [← offered_words_first vocabulary typed _ _ continues, ← sort_words_stable]
  exact (congrArg (Option.map Prod.snd) found).symm

theorem completion_candidates_listed (vocabulary : Vocabulary) (token : Token) (previous : Option Token) :
    let items := completionCandidates vocabulary token.text previous
    let offered := candidateCategories previous
    (items.map Candidate.label).Pairwise (fun a b => labelKey a < labelKey b) ∧
      (items.map Candidate.label).Nodup ∧
      (∀ label, label ∈ items.map Candidate.label ↔
        (∃ category ∈ offered, label ∈ vocabulary.words category) ∧
          label.length ≠ token.text.length ∧ lowerCase token.text <+: lowerCase label) ∧
      ∀ item ∈ items, ∃ category,
        offerOrder.find? (fun category => decide (category ∈ offered ∧ item.label ∈ vocabulary.words category)) =
            some category ∧
          item.category = some category ∧ item.detail = some category.name := by
  intro items offered
  have strict : (items.map Candidate.label).Pairwise fun a b => labelKey a < labelKey b :=
    List.pairwise_map.mpr (drop_repeats_strict _ (words_sorted_by_label _))
  have distinct : (items.map Candidate.label).Nodup := by
    refine strict.imp (fun less same => ?_)
    rw [same] at less
    exact lt_irrefl _ less
  refine ⟨strict, distinct, completion_labels_iff vocabulary token.text previous, fun item listed => ?_⟩
  obtain ⟨category, _, word, _, _, rfl⟩ := completion_candidate_word vocabulary token.text previous item listed
  refine ⟨category, ?_, rfl, rfl⟩
  have first := completion_category_first vocabulary token.text previous _ listed
  rw [← categories_in_offer_order previous, List.find?_filter] at first
  simpa using first.symm

end FilterAssist
