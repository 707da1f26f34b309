import MotorTariff.Proofs.Text.LetterCase
import MotorTariff.Text.CaseCycle
import MotorTariff.Vehicle

/-!
# Listed makes and models

A vehicle is classified by words that are listed. A word is taken for a listed one if its bytes are,
once the ASCII capitals among them are made small, and this is so exactly for the spellings of the
listed words in any case of their letters. No listed word holds the characters of another one in
order, so whatever is put into such a spelling makes it a word that is not listed.
-/

set_option autoImplicit false

namespace MotorTariff.VehicleCategory

def listedWords : List String := luxuryMakes ++ sportsMakes ++ suvModels

/-- Whether a word with its ASCII capitals made small is one of these words. -/
def IsListed (words : List String) (word : String) : Prop :=
  loweredBytes word ∈ words.map Utf8.encodeText

/-- Whether the make alone decides. -/
def HasListedMake (make : String) : Prop := IsListed luxuryMakes make ∨ IsListed sportsMakes make

/-- A word with the characters of a listed one in order, in any case, and with others besides. -/
def ExtendsListed (word : String) : Prop :=
  ∃ listed ∈ listedWords, ∃ spelled, SameButCase spelled listed ∧
    spelled.toList.Sublist word.toList ∧ spelled ≠ word

section Lists

theorem listed_word_is_small : ∀ listed ∈ listedWords, foldCase listed = listed.toList := by decide

theorem listed_word_is_ascii :
    ∀ listed ∈ listedWords, ∀ c ∈ listed.toList, c.toNat < 0x80 := by
  have ascii : ∀ listed ∈ listedWords, listed.toList.all (·.toNat < 0x80) = true := by decide
  intro listed member
  simpa using ascii listed member

theorem listed_words_are_apart :
    ∀ listed ∈ listedWords, ∀ other ∈ listedWords,
      listed.toList.Sublist other.toList → listed.toList = other.toList := by decide

theorem makes_are_disjoint :
    ∀ luxurious ∈ luxuryMakes, ∀ sporty ∈ sportsMakes, luxurious.toList ≠ sporty.toList := by decide

theorem luxury_makes_are_listed : luxuryMakes ⊆ listedWords := by decide

theorem sports_makes_are_listed : sportsMakes ⊆ listedWords := by decide

theorem suv_models_are_listed : suvModels ⊆ listedWords := by decide

end Lists

section Match

variable {words : List String} {word other : String}

theorem is_one_of_iff_spelled :
    isOneOf word words = true ↔ ∃ listed ∈ words, SameButCase word listed := by
  simp only [isOneOf, List.any_eq_true, beq_iff_eq]
  apply exists_congr
  intro listed
  rw [same_but_case_iff, eq_comm]
  rfl

theorem is_one_of_same_but_case (same : SameButCase word other) :
    isOneOf word words = isOneOf other words := by
  have folded : foldCase word = foldCase other := (same_but_case_iff word other).mp same
  rw [isOneOf, isOneOf, folded]

variable (within : words ⊆ listedWords)

include within

theorem is_one_of_iff :
    isOneOf word words = true ↔ ∃ listed ∈ words, listed.toList = foldCase word := by
  -- Listed words are written in small letters, so that only the word has to be folded.
  simp only [isOneOf, List.any_eq_true, beq_iff_eq]
  apply exists_congr
  intro listed
  apply and_congr_right
  intro member
  rw [listed_word_is_small listed (within member)]

theorem is_one_of_iff_listed : isOneOf word words = true ↔ IsListed words word := by
  simp only [is_one_of_iff within, IsListed, List.mem_map, encode_text_eq_lowered_iff, foldCase]

theorem ascii_of_is_one_of (found : isOneOf word words = true) :
    ∀ c ∈ word.toList, c.toNat < 0x80 := by
  intro c member
  obtain ⟨listed, inList, folded⟩ := (is_one_of_iff within).mp found
  have small : c.toLower ∈ listed.toList := folded ▸ List.mem_map_of_mem member
  exact Nat.lt_of_le_of_lt to_nat_le_to_lower
    (listed_word_is_ascii listed (within inList) c.toLower small)

theorem not_one_of_foreign (foreign : ∃ c ∈ word.toList, 0x80 ≤ c.toNat) :
    isOneOf word words = false := by
  apply Bool.eq_false_iff.mpr
  intro found
  obtain ⟨c, member, beyond⟩ := foreign
  have ascii := ascii_of_is_one_of within found c member
  omega

theorem not_one_of_extended (extended : ExtendsListed word) : isOneOf word words = false := by
  apply Bool.eq_false_iff.mpr
  intro found
  obtain ⟨part, partListed, spelled, same, inside, more⟩ := extended
  obtain ⟨listed, inList, folded⟩ := (is_one_of_iff within).mp found
  have foldedPart : foldCase spelled = part.toList := by
    rw [← listed_word_is_small part partListed]
    exact (same_but_case_iff spelled part).mp same
  have held : part.toList.Sublist listed.toList := by
    rw [← foldedPart, folded]
    exact inside.map Char.toLower
  have whole : foldCase spelled = foldCase word := by
    rw [foldedPart, ← folded]
    exact listed_words_are_apart part partListed listed (within inList) held
  have length : spelled.toList.length = word.toList.length := by
    simpa only [foldCase, List.length_map] using congrArg List.length whole
  apply more
  rw [← String.toList_inj]
  exact inside.eq_of_length length

end Match

section Priority

variable {make : String} (model : String)

theorem not_both_makes (luxurious : isOneOf make luxuryMakes = true) :
    isOneOf make sportsMakes = false := by
  apply Bool.eq_false_iff.mpr
  intro sporty
  obtain ⟨one, inLuxury, folded⟩ := (is_one_of_iff luxury_makes_are_listed).mp luxurious
  obtain ⟨other, inSports, foldedToo⟩ := (is_one_of_iff sports_makes_are_listed).mp sporty
  exact makes_are_disjoint one inLuxury other inSports (folded.trans foldedToo.symm)

theorem luxury_iff_listed : classify make model = luxury ↔ IsListed luxuryMakes make := by
  rw [← is_one_of_iff_listed luxury_makes_are_listed, classify]
  split_ifs with luxurious <;> simp [luxurious]

/-- The luxury makes come first, but no make is in both lists. -/
theorem sports_iff_listed : classify make model = sports ↔ IsListed sportsMakes make := by
  rw [← is_one_of_iff_listed sports_makes_are_listed, classify]
  split_ifs with luxurious sporty
  · simp [not_both_makes luxurious]
  all_goals simp [sporty]

theorem classify_of_listed_make (listed : HasListedMake make) (other : String) :
    classify make other = classify make model := by
  rcases listed with luxurious | sporty
  · rw [(luxury_iff_listed other).mpr luxurious, (luxury_iff_listed model).mpr luxurious]
  · rw [(sports_iff_listed other).mpr sporty, (sports_iff_listed model).mpr sporty]

theorem classify_of_other_make (unlisted : ¬ HasListedMake make) :
    classify make model = if isOneOf model suvModels then suv else sedan := by
  obtain ⟨common, tame⟩ := not_or.mp unlisted
  rw [← is_one_of_iff_listed luxury_makes_are_listed] at common
  rw [← is_one_of_iff_listed sports_makes_are_listed] at tame
  rw [classify, if_neg common, if_neg tame]

theorem suv_iff_listed (unlisted : ¬ HasListedMake make) :
    classify make model = suv ↔ IsListed suvModels model := by
  rw [classify_of_other_make model unlisted, ← is_one_of_iff_listed suv_models_are_listed]
  split_ifs with found <;> simp [found]

theorem sedan_iff_not_listed (unlisted : ¬ HasListedMake make) :
    classify make model = sedan ↔ ¬ IsListed suvModels model := by
  rw [classify_of_other_make model unlisted, ← is_one_of_iff_listed suv_models_are_listed]
  split_ifs with found <;> simp [found]

end Priority

/-- The case of ASCII letters never matters. A make that is listed gives its category whatever the
model is. With any other make the vehicle is an SUV if its model is listed and a sedan if not. A
word counts as listed just if it is a listed one but for case, so no word does that extends one of
them or has a character beyond ASCII. -/
theorem category_follows_listed_words (make model : String) :
    (∀ otherMake otherModel, SameButCase make otherMake → SameButCase model otherModel →
        classify otherMake otherModel = classify make model) ∧
      (classify make model = luxury ↔ IsListed luxuryMakes make) ∧
      (classify make model = sports ↔ IsListed sportsMakes make) ∧
      (HasListedMake make → ∀ otherModel, classify make otherModel = classify make model) ∧
      (¬ HasListedMake make →
        (∀ otherMake, ¬ HasListedMake otherMake →
          classify otherMake model = classify make model) ∧
        (classify make model = suv ↔ IsListed suvModels model) ∧
        (classify make model = sedan ↔ ¬ IsListed suvModels model)) ∧
      ∀ words ∈ [luxuryMakes, sportsMakes, suvModels], ∀ word,
        (isOneOf word words = true ↔ IsListed words word) ∧
        (IsListed words word ↔ ∃ listed ∈ words, SameButCase word listed) ∧
        (ExtendsListed word ∨ (∃ c ∈ word.toList, 0x80 ≤ c.toNat) → ¬ IsListed words word) := by
  refine ⟨?_, luxury_iff_listed model, sports_iff_listed model,
    classify_of_listed_make model, ?_, ?_⟩
  · intro otherMake otherModel sameMake sameModel
    simp only [classify, is_one_of_same_but_case sameMake, is_one_of_same_but_case sameModel]
  · intro unlisted
    refine ⟨?_, suv_iff_listed model unlisted, sedan_iff_not_listed model unlisted⟩
    intro otherMake unlistedToo
    rw [classify_of_other_make model unlistedToo, classify_of_other_make model unlisted]
  · intro words list word
    have within : words ⊆ listedWords := by
      simp only [List.mem_cons, List.not_mem_nil, or_false] at list
      rcases list with rfl | rfl | rfl
      · exact luxury_makes_are_listed
      · exact sports_makes_are_listed
      · exact suv_models_are_listed
    rw [← is_one_of_iff_listed within, Bool.not_eq_true]
    refine ⟨Iff.rfl, is_one_of_iff_spelled, ?_⟩
    rintro (extended | foreign)
    · exact not_one_of_extended within extended
    · exact not_one_of_foreign within foreign

/-- A listed make in capitals, the same make with a word behind it, and a listed model that begins
with a long s, a case of its first letter that ASCII does not have. -/
theorem near_misses_make_a_sedan :
    let model := "\u017fUV"
    (SameButCase "Lexus" "LEXUS" ∧ SameButCase model "\u017fuv" ∧
      classify "LEXUS" "\u017fuv" = classify "Lexus" model) ∧
      (HasListedMake "Lexus" ∧ classify "Lexus" "suv" = classify "Lexus" model) ∧
      (ExtendsListed "LEXUS LX" ∧ ¬ HasListedMake "LEXUS LX") ∧
      (¬ HasListedMake "Ford" ∧ classify "Ford" model = classify "LEXUS LX" model) ∧
      (List.Forall₂ (fun c d => c ∈ caseVariants d) model.toList "suv".toList ∧
        (∃ c ∈ model.toList, 0x80 ≤ c.toNat) ∧ classify "LEXUS LX" model = sedan) := by
  intro model
  have sameMake : SameButCase "Lexus" "LEXUS" := by decide
  have sameModel : SameButCase model "\u017fuv" := by decide
  have listed : HasListedMake "Lexus" := by
    left
    rw [← is_one_of_iff_listed luxury_makes_are_listed]
    decide
  have common : ¬ HasListedMake "Ford" := by
    apply not_or.mpr
    rw [← is_one_of_iff_listed luxury_makes_are_listed,
      ← is_one_of_iff_listed sports_makes_are_listed]
    decide
  have extended : ExtendsListed "LEXUS LX" :=
    ⟨"lexus", by decide, "LEXUS", by decide, by decide, by decide⟩
  have foreign : ∃ c ∈ model.toList, 0x80 ≤ c.toNat := ⟨'\u017f', by decide, by decide⟩
  have variants : List.Forall₂ (fun c d => c ∈ caseVariants d) model.toList "suv".toList := by
    simp only [model]
    refine .cons ?_ (.cons ?_ (.cons ?_ .nil)) <;> decide
  obtain ⟨ofCase, -, -, ofListed, -, -⟩ := category_follows_listed_words "Lexus" model
  obtain ⟨-, -, -, -, ofOther, ofLists⟩ := category_follows_listed_words "LEXUS LX" model
  have unlisted : ¬ HasListedMake "LEXUS LX" := by
    apply not_or.mpr
    exact ⟨(ofLists luxuryMakes (by simp) "LEXUS LX").2.2 (Or.inl extended),
      (ofLists sportsMakes (by simp) "LEXUS LX").2.2 (Or.inl extended)⟩
  have unlistedModel : ¬ IsListed suvModels model :=
    (ofLists suvModels (by simp) model).2.2 (Or.inr foreign)
  obtain ⟨ofMake, -, ofSedan⟩ := ofOther unlisted
  exact ⟨⟨sameMake, sameModel, ofCase "LEXUS" "\u017fuv" sameMake sameModel⟩,
    ⟨listed, ofListed listed "suv"⟩, ⟨extended, unlisted⟩, ⟨common, ofMake "Ford" common⟩,
    ⟨variants, foreign, ofSedan.mpr unlistedModel⟩⟩

end MotorTariff.VehicleCategory
