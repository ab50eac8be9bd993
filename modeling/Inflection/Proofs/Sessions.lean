import Inflection.Proofs.Selection
import Inflection.Session

/-!
# Sessions have no memory but the filter

An inflector keeps its filter and, beside it, what passes the filter.  After any
requests both are those of an inflector that was made anew, with the same
language and book and with the filter that was accepted last.  So no answer
depends on a filter that was refused, on one that was replaced since, or on what
was conjugated before.
-/

namespace Inflection

open Inflection.Rules

/-- Tells that a book accepts a filter. -/
def Filter.Accepted (filter : Filter) (book : RuleBook) : Prop :=
  ∃ selection, filter.resolve book = .ok selection

instance (filter : Filter) (book : RuleBook) :
    Decidable (filter.Accepted book) :=
  match resolved : filter.resolve book with
  | .ok selection => .isTrue ⟨selection, resolved⟩
  | .error error => .isFalse fun ⟨selection, accepted⟩ => by
      rw [resolved] at accepted
      cases accepted

/-- The filter that a request sets, if it sets one. -/
def Request.newFilter? : Request → Option Filter
  | .setFilter given => some given
  | _ => none

/-- The filter in effect after some requests: of those that they set and the
book accepts the last one, or else the one from before. -/
def filterInEffect
    (book : RuleBook)
    (before : Filter)
    (requests : List Request) :
    Filter :=
  ((requests.filterMap Request.newFilter?).filter fun filter =>
    filter.Accepted book).getLastD before

/-- The filter in effect is that of the first request, and then that
of the others. -/
theorem filterInEffect_cons
    (book : RuleBook)
    (before : Filter)
    (request : Request)
    (requests : List Request) :
    filterInEffect book before (request :: requests) =
      filterInEffect book (filterInEffect book before [request]) requests := by
  have split : request :: requests = [request] ++ requests := rfl
  unfold filterInEffect
  rw [split, List.filterMap_append, List.filter_append]
  generalize (([request].filterMap Request.newFilter?).filter fun filter =>
    filter.Accepted book) =
    earlier
  generalize ((requests.filterMap Request.newFilter?).filter fun filter =>
    filter.Accepted book) =
    later
  simp only [List.getLastD_eq_getLast?, List.getLast?_append]
  cases later.getLast? with
  | none => rfl
  | some filter => rfl

theorem filterInEffect_setFilter (book : RuleBook) (before filter : Filter) :
    filterInEffect book before [.setFilter filter] =
      if filter.Accepted book then filter else before := by
  unfold filterInEffect
  by_cases accepted : filter.Accepted book
  · simp [Request.newFilter?, accepted]
  · simp [Request.newFilter?, accepted]

namespace Inflector

/-- Setting a filter makes the inflector anew. -/
theorem setFilter_eq_ofBook (inflector : Inflector) (filter : Filter) :
    inflector.setFilter filter =
      ofBook inflector.language inflector.book filter :=
  rfl

/-- A filter that an inflector is made with is accepted by its book. -/
theorem accepted_of_ofBook
    {language : String}
    {book : RuleBook}
    {filter : Filter}
    {inflector : Inflector}
    (made : ofBook language book filter = .ok inflector) :
    filter.Accepted book := by
  rcases parts_of_ofBook made with ⟨-, rfl, rfl⟩
  exact ⟨inflector.selection, inflector.resolved⟩

section

variable
    {language : String}
    {book : RuleBook}
    {before : Filter}
    {inflector : Inflector}

/-- After one request an inflector is as if made anew with the
filter in effect. -/
theorem ofBook_respond
    (made : ofBook language book before = .ok inflector)
    (request : Request) :
    ofBook language book (filterInEffect book before [request]) =
      .ok (inflector.respond request).2 := by
  cases request with
  | setFilter filter =>
    have anew : inflector.setFilter filter = ofBook language book filter := by
      rcases parts_of_ofBook made with ⟨rfl, rfl, -⟩
      exact setFilter_eq_ofBook inflector filter
    rw [filterInEffect_setFilter]
    cases set : inflector.setFilter filter with
    | error error =>
      have refused : ¬ filter.Accepted book := by
        rintro ⟨selection, accepted⟩
        rcases exists_ofBook language accepted with ⟨changed, changes⟩
        rw [anew, changes] at set
        cases set
      rw [if_neg refused, respond_of_refused set]
      exact made
    | ok changed =>
      have changes : ofBook language book filter = .ok changed := anew ▸ set
      rw [if_pos (accepted_of_ofBook changes), respond_of_accepted set]
      exact changes
  | _ => exact made

/-- So it is after any requests. -/
theorem ofBook_after
    (made : ofBook language book before = .ok inflector)
    (requests : List Request) :
    ofBook language book (filterInEffect book before requests) =
      .ok (inflector.after requests) := by
  induction requests generalizing before inflector with
  | nil => exact made
  | cons request requests ih =>
    rw [filterInEffect_cons]
    exact ih (ofBook_respond made request)

end

/-- A request is answered by the inflector after the requests before it. -/
theorem getElem?_responses
    (inflector : Inflector)
    (earlier later : List Request)
    (request : Request) :
    (inflector.responses (earlier ++ request :: later))[earlier.length]? =
      some ((inflector.after earlier).respond request).1 := by
  induction earlier generalizing inflector with
  | nil => rfl
  | cons first earlier ih => exact ih (inflector.respond first).2

theorem after_concat
    (inflector : Inflector)
    (requests : List Request)
    (request : Request) :
    inflector.after (requests ++ [request]) =
      ((inflector.after requests).respond request).2 := by
  rw [after, after, List.foldl_append]
  rfl

/-- An answer that a filter is refused says that the inflector
stays as it is. -/
theorem unchanged_of_refusal
    {inflector : Inflector}
    {filter : Filter}
    {error : FilterError}
    (refusal :
      (inflector.respond (.setFilter filter)).1 = .filterSet (.error error)) :
    (inflector.respond (.setFilter filter)).2 = inflector := by
  cases set : inflector.setFilter filter with
  | error error => rw [respond_of_refused set]
  | ok changed =>
    rw [respond_of_accepted set] at refusal
    cases refusal

/-- In a session that starts with a book and a filter, the language and the book
stay the same, the selection is always that of the filter, and this filter is
the one accepted last.  A filter that is refused leaves both filter and
selection as they were.  Every verb is conjugated as by an inflector made anew
with the filter in effect. -/
theorem session_as_if_made_anew
    {language : String}
    {book : RuleBook}
    {first : Filter}
    {inflector : Inflector}
    (made : ofBook language book first = .ok inflector)
    (requests : List Request) :
    ((inflector.after requests).language = language ∧
      (inflector.after requests).book = book ∧
      (inflector.after requests).filter = filterInEffect book first requests ∧
      (inflector.after requests).filter.resolve book =
        .ok (inflector.after requests).selection) ∧
    (∀ (filter : Filter) (error : FilterError) (later : List Request),
      (inflector.responses
        (requests ++ .setFilter filter :: later))[requests.length]? =
          some (.filterSet (.error error)) →
        (inflector.after (requests ++ [.setFilter filter])).filter =
            (inflector.after requests).filter ∧
          (inflector.after (requests ++ [.setFilter filter])).selection =
            (inflector.after requests).selection) ∧
    ∃ fresh,
      ofBook language book (filterInEffect book first requests) = .ok fresh ∧
      ∀ (verb : String) (later : List Request),
        (inflector.responses
          (requests ++ .conjugate verb :: later))[requests.length]? =
          some (.conjugated (fresh.conjugate verb)) := by
  have reached := ofBook_after made requests
  rcases parts_of_ofBook reached with ⟨sameLanguage, sameBook, isFilter⟩
  refine ⟨⟨sameLanguage, sameBook, isFilter, ?_⟩, ?_, ?_⟩
  · have resolved := (inflector.after requests).resolved
    rwa [sameBook] at resolved
  · intro filter error later answered
    rw [getElem?_responses] at answered
    rw [after_concat, unchanged_of_refusal (Option.some.inj answered)]
    exact ⟨rfl, rfl⟩
  · refine ⟨inflector.after requests, reached, ?_⟩
    intro verb later
    exact getElem?_responses inflector requests later (.conjugate verb)

/-- A book that declares two forms. -/
def bookOfTwoForms : RuleBook where
  forms := ["prs", "imp"]
  paradigms := [⟨"1", "sg"⟩]
  verbs := [⟨"parler", none, .empty⟩]
  verbSets := []
  verbs_distinct := List.pairwise_singleton ..
  verbSets_distinct := List.nodup_nil

/-- An inflector for the first of these forms. -/
def inflectorOfPresent : Inflector where
  language := "fr"
  book := bookOfTwoForms
  filter := { forms := some ["prs"] }
  selection := ⟨["prs"], [⟨"1", "sg"⟩]⟩
  resolved := rfl

/-- Requests that set a filter and then one that is refused, with a conjugation
between them. -/
def requestsWithRefusal : List Request :=
  [.setFilter { formsExcept := ["prs"] }, .conjugate "parler",
    .setFilter { forms := some ["aor"] }]

/-- After these requests the filter that was accepted is in effect. -/
theorem session_as_if_made_anew_after_refusal :
    ofBook "fr" bookOfTwoForms { forms := some ["prs"] } =
      .ok inflectorOfPresent ∧
    filterInEffect bookOfTwoForms { forms := some ["prs"] }
      requestsWithRefusal =
      { formsExcept := ["prs"] } ∧
    (inflectorOfPresent.after requestsWithRefusal).filter =
      { formsExcept := ["prs"] } ∧
    ∃ fresh,
      ofBook "fr" bookOfTwoForms { formsExcept := ["prs"] } = .ok fresh ∧
      ∀ (verb : String) (later : List Request),
        (inflectorOfPresent.responses
          (requestsWithRefusal ++ .conjugate verb :: later))[3]? =
          some (.conjugated (fresh.conjugate verb)) := by
  have made :
      ofBook "fr" bookOfTwoForms { forms := some ["prs"] } =
        .ok inflectorOfPresent := by
    rfl
  have inEffect :
      filterInEffect bookOfTwoForms { forms := some ["prs"] }
        requestsWithRefusal =
        { formsExcept := ["prs"] } := by
    rfl
  have session := session_as_if_made_anew made requestsWithRefusal
  rw [inEffect] at session
  exact ⟨made, inEffect, session.1.2.2.1, session.2.2⟩

end Inflector

end Inflection
