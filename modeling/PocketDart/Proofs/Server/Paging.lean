import Mathlib.Data.List.Forall2
import Mathlib.Data.Nat.Find
import PocketDart.Proofs.Server.Pages

/-
  This file proves that fetching in pages loses nothing,
  gets nothing twice and comes to an end. It ends at the
  first page that has no items or no page behind it,
  whatever the pages before it tell about their number.

  Key theorems include:
    * `isLast_countedPages`
    * `leadOn_of_forall₂`
    * `fetch_follows_pages`
-/

------------------------------------------------------------
-- Scripts of Pages
------------------------------------------------------------

namespace PocketDart

open Client (Page)

/- A reply that holds a page and tells its number of pages. -/
def Reply.IsPageOf
    (reply : Reply)
    (page : Page) : Prop :=
  reply.IsPage page.items (some page.total)

/- A number of pages that is 0 is over at once, as is 1. -/
theorem isLast_countedPages
    {number : Nat}
    (hNumber : 1 ≤ number)
    (page : Page) :
    Page.isLast
        ⟨page.items, countedPages (some page.total)⟩
        number =
      page.isLast number := by
  by_cases hZero : page.total = 0
  · have hOne : (1 : Int) ≤ number := by
      omega
    have hNone : page.total ≤ number := by
      omega
    rw [countedPages, if_pos hZero, Page.isLast,
      Page.isLast, decide_eq_true hOne,
      decide_eq_true hNone]
  · rw [countedPages, if_neg hZero]

theorem isLast_succ_iff
    (page : Page)
    (place : Nat) :
    page.isLast (place + 1) ↔
      page.total ≤ place + 1 ∨ page.items = [] := by
  simp [Page.isLast]

/-
  Pages none of which is the last one lead on. The induction
  is on the pages, with the number of the first of them.
-/
theorem leadOn_of_forall₂
    {number : Nat}
    {replies : List Reply}
    {pages : List Page}
    (hNumber : 1 ≤ number)
    (hPages :
      List.Forall₂ Reply.IsPageOf replies pages)
    (hOpen : ∀ place (page : Page),
      pages[place]? = some page →
        page.isLast (number + place) = false) :
    LeadOn number replies (pages.flatMap (·.items)) := by
  induction hPages generalizing number with
  | nil => exact .nil
  | @cons reply page replies pages hPage hRest ih =>
      have hMore : page.isLast number = false :=
        hOpen 0 page rfl
      rw [← isLast_countedPages hNumber] at hMore
      have hLater : LeadOn (number + 1) replies
          (pages.flatMap (·.items)) := by
        apply ih (by omega)
        intro place other hOther
        have hPlace := hOpen (place + 1) other hOther
        rwa [← Nat.add_assoc, Nat.add_right_comm] at hPlace
      have hLead := LeadOn.cons hPage.givesPage hMore hLater
      exact hLead

/-
  The first of some pages that is the last one ends the
  fetch, with the items of the pages up to it.
-/
theorem run_fetch_of_pages
    (client : Client)
    (pageSize : Value)
    {session : Session}
    {pages : List Page}
    (hPages :
      List.Forall₂ Reply.IsPageOf session.replies pages)
    {place : Nat}
    {page : Page}
    (hPage : pages[place]? = some page)
    (hLast : page.isLast (place + 1))
    (hOpen : ∀ earlier < place, ∀ other : Page,
      pages[earlier]? = some other →
        other.isLast (earlier + 1) = false) :
    ∃ after,
      (client.fetch pageSize).run session =
          .ok ((pages.take (place + 1)).flatMap (·.items))
            after ∧
        session.Answered
          ((List.range' 1 (place + 1)).map
            (client.pageRequest pageSize session.token))
          (session.replies.take (place + 1)) after := by
  have hLead : LeadOn 1 (session.replies.take place)
      ((pages.take place).flatMap (·.items)) := by
    apply leadOn_of_forall₂ (Nat.le_refl 1)
      (List.forall₂_take place hPages)
    intro earlier other hOther
    rw [List.getElem?_take] at hOther
    split at hOther
    · next hEarlier =>
        rw [Nat.add_comm]
        exact hOpen earlier hEarlier other hOther
    · cases hOther
  rcases List.getElem?_eq_some_iff.mp hPage with
    ⟨hPlace, hGet⟩
  have hRest := List.forall₂_drop place hPages
  rw [List.drop_eq_getElem_cons hPlace, hGet] at hRest
  rcases List.forall₂_cons_right_iff.mp hRest with
    ⟨reply, later, hReply, _, hDrop⟩
  have hReplies : session.replies =
      session.replies.take place ++ reply :: later := by
    rw [← hDrop, List.take_append_drop]
  have hLength :
      (session.replies.take place).length = place := by
    rw [List.length_take, hPages.length_eq]
    omega
  have hCounted : Page.isLast
      ⟨page.items, countedPages (some page.total)⟩
      (1 + (session.replies.take place).length) := by
    rw [hLength, isLast_countedPages (by omega),
      Nat.add_comm]
    exact hLast
  have hSome : session.replies[place]? = some reply := by
    rw [← List.head?_drop, hDrop]
    rfl
  rcases hLead.run_fetch client pageSize hReplies
      hReply.givesPage hCounted with ⟨after, hFetch, hAfter⟩
  refine ⟨after, ?_, ?_⟩
  · rw [hFetch, List.take_add_one, hPage,
      List.flatMap_append]
    simp
  · rw [hLength] at hAfter
    rw [List.take_add_one, hSome]
    exact hAfter

/-
  A fetch gets all payloads of a server that gives them in
  pages, and asks once for every page, in order. From any
  pages it collects the items up to the first one that has
  none or has no page behind it, and asks for no other.
-/
theorem fetch_follows_pages
    (client : Client)
    (pageSize : Value)
    (session : Session) :
    (∀ size payloads answer later,
      1 ≤ size →
      ServesPages size payloads answer →
      session.replies =
        (pageNumbers size payloads).map answer ++ later →
      ∃ after,
        (client.fetch pageSize).run session =
            .ok payloads after ∧
          session.Answered
            ((pageNumbers size payloads).map
              (client.pageRequest pageSize session.token))
            ((pageNumbers size payloads).map answer)
            after) ∧
    ∀ pages : List Page,
      List.Forall₂ Reply.IsPageOf session.replies pages →
      (∃ (place : Nat) (page : Page),
        pages[place]? = some page ∧
        (page.total ≤ place + 1 ∨ page.items = [])) →
      ∃ (place : Nat) (page : Page) (after : Session),
        pages[place]? = some page ∧
        (page.total ≤ place + 1 ∨ page.items = []) ∧
        (∀ earlier < place, ∀ other : Page,
          pages[earlier]? = some other →
            earlier + 1 < other.total ∧
              other.items ≠ []) ∧
        (client.fetch pageSize).run session =
          .ok ((pages.take (place + 1)).flatMap (·.items))
            after ∧
        session.Answered
          ((List.range' 1 (place + 1)).map
            (client.pageRequest pageSize session.token))
          (session.replies.take (place + 1)) after := by
  classical
  refine ⟨fun size payloads answer later hSize hServes
    hReplies => hServes.run_fetch client pageSize hSize
      hReplies, ?_⟩
  intro pages hPages hEnd
  rcases Nat.find_spec hEnd with ⟨page, hPage, hLast⟩
  have hOpen : ∀ earlier < Nat.find hEnd, ∀ other : Page,
      pages[earlier]? = some other →
        earlier + 1 < other.total ∧ other.items ≠ [] := by
    intro earlier hEarlier other hOther
    rw [← Int.not_le, ← not_or]
    exact fun hOtherLast => Nat.find_min hEnd hEarlier
      ⟨other, hOther, hOtherLast⟩
  have hLead : ∀ earlier < Nat.find hEnd, ∀ other : Page,
      pages[earlier]? = some other →
        other.isLast (earlier + 1) = false := by
    intro earlier hEarlier other hOther
    have hNot := hOpen earlier hEarlier other hOther
    rw [← Int.not_le, ← not_or, ← isLast_succ_iff] at hNot
    exact Bool.eq_false_iff.mpr hNot
  rcases run_fetch_of_pages client pageSize hPages hPage
      ((isLast_succ_iff _ _).mpr hLast) hLead with
    ⟨after, hFetch, hAfter⟩
  exact ⟨_, page, after, hPage, hLast, hOpen, hFetch,
    hAfter⟩

def Reply.ofPage (page : Page) : Reply :=
  .response
    { status := 200, url := none
      document := .ok <| .object
        [("items", .list page.items),
          ("totalPages", .int page.total)] }

/-
  Three payloads in pages of two, and three pages that tell
  different numbers, of which the second is the last one.
-/
theorem fetch_ends_at_second_page :
    let client : Client := ⟨"http://localhost", .int 30⟩
    let payloads : List Value := [.int 1, .int 2, .int 3]
    let answer (number : Nat) : Reply :=
      .ofPage ⟨payloadsOn 2 payloads number,
        pageCount 2 payloads⟩
    let served : Session :=
      { replies := [1, 2].map answer, silence := "" }
    let pages : List Page :=
      [⟨[.int 1, .int 2], 5⟩, ⟨[.int 3], 2⟩, ⟨[.int 4], 9⟩]
    let scripted : Session :=
      { replies := pages.map .ofPage, silence := "" }
    ∃ all some,
      (client.fetch (.int 2)).run served =
          .ok payloads all ∧
        (client.fetch (.int 2)).run scripted =
          .ok payloads some ∧
        all.requests = [1, 2].map
          (client.pageRequest (.int 2) .null) ∧
        some.requests = all.requests ∧
        some.replies = [.ofPage ⟨[.int 4], 9⟩] := by
  intro client payloads answer served pages scripted
  have hServes : ServesPages 2 payloads answer :=
    fun number _ => ⟨_, ⟨_, ⟨_, rfl, rfl, rfl⟩, rfl, rfl⟩,
      fun _ => rfl⟩
  have hNumbers : pageNumbers 2 payloads = [1, 2] := by
    decide
  have hReplies : served.replies =
      (pageNumbers 2 payloads).map answer ++ [] := by
    rw [hNumbers, List.append_nil]
  have hPages :
      List.Forall₂ Reply.IsPageOf scripted.replies
        pages := by
    rw [List.forall₂_map_left_iff, List.forall₂_same]
    exact fun page _ => ⟨_, ⟨_, rfl, rfl, rfl⟩, rfl, rfl⟩
  rcases (fetch_follows_pages client (.int 2) served).1 2
      payloads answer [] (by decide) hServes hReplies with
    ⟨all, hAll, hAsked⟩
  rw [hNumbers] at hAsked
  rcases (fetch_follows_pages client (.int 2) scripted).2
      pages hPages ⟨1, _, rfl, Or.inl (by decide)⟩ with
    ⟨place, page, after, hPage, hLast, hOpen, hFetch,
      hAnswered⟩
  obtain rfl : place = 1 := by
    match place with
    | 0 =>
        cases hPage
        exact absurd hLast (by decide)
    | 1 => rfl
    | place + 2 =>
        exact absurd (hOpen 1 (by omega) _ rfl)
          (by decide)
  have hLeft :
      scripted.replies.take 2 ++ [.ofPage ⟨[.int 4], 9⟩] =
        scripted.replies.take 2 ++ after.replies :=
    hAnswered.replies
  exact ⟨all, after, hAll, hFetch, hAsked.requests,
    hAnswered.requests.trans hAsked.requests.symm,
    (List.append_cancel_left hLeft).symm⟩

end PocketDart
