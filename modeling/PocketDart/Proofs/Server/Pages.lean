import PocketDart.Proofs.Fallible
import PocketDart.Proofs.Server.Replies

/-
  This file proves that a client gets all payloads from a
  server that gives them in pages, whatever the size of a
  page is. Pages are asked for in order, up to the number of
  them that every page tells, and none is asked for twice.

  Key definitions include:
    * `payloadsOn`
    * `pageCount`
    * `Reply.IsPage`
    * `Reply.HoldsPage`
    * `ServesPages`
    * `AnswersInPages`
    * `NamesSystem`

  Key theorems include:
    * `Reply.IsPage.givesPage`
    * `ServesPages.leadOn`
    * `ServesPages.run_fetch`
    * `Client.run_collections`
-/

------------------------------------------------------------
-- Pages
------------------------------------------------------------

namespace PocketDart

/- The payloads on a page; pages are counted from one. -/
def payloadsOn
    (size : Nat)
    (payloads : List Value)
    (number : Nat) : List Value :=
  (payloads.drop ((number - 1) * size)).take size

/- How many pages payloads take, the last one not full. -/
def pageCount
    (size : Nat)
    (payloads : List Value) : Nat :=
  (payloads.length + size - 1) / size

/- All payloads stand on pages. -/
theorem length_le_pageCount_mul
    {size : Nat}
    (hSize : 1 ≤ size)
    (payloads : List Value) :
    payloads.length ≤ pageCount size payloads * size := by
  have hDivided := Nat.div_add_mod
    (payloads.length + size - 1) size
  have hRest := Nat.mod_lt
    (payloads.length + size - 1) hSize
  rw [Nat.mul_comm] at hDivided
  unfold pageCount
  omega

/- A page that is not the last one is full. -/
theorem lt_of_lt_pageCount
    {size number : Nat}
    (hSize : 1 ≤ size)
    {payloads : List Value}
    (hNumber : number < pageCount size payloads) :
    number * size < payloads.length := by
  have hPages : (number + 1) * size ≤
      payloads.length + size - 1 :=
    (Nat.le_div_iff_mul_le hSize).mp hNumber
  rw [Nat.succ_mul] at hPages
  omega

/- The numbers of the pages that a client asks for. -/
def pageNumbers
    (size : Nat)
    (payloads : List Value) : List Nat :=
  List.range' 1 (max 1 (pageCount size payloads))

/-
  A reply that is a page: it is no error, and its document
  has the items and a whole number of all pages, if any.
-/
def Reply.IsPage
    (reply : Reply)
    (items : List Value)
    (total? : Option Int) : Prop :=
  ∃ document, reply.Tells document ∧
    document.get? "items" = some (.list items) ∧
    document.get? "totalPages" = total?.map .int

/- A reply that is a page and tells the number of all. -/
def Reply.HoldsPage
    (reply : Reply)
    (items : List Value)
    (total : Nat) : Prop :=
  ∃ response document,
    reply = .response response ∧
      response.isError = false ∧
      response.document = .ok document ∧
      document.get? "items" = some (.list items) ∧
      document.get? "totalPages" = some (.int total)

/- What a server answers to the request for each page. -/
def AnswersInPages
    (size : Nat)
    (payloads : List Value)
    (answer : Nat → Reply) : Prop :=
  ∀ number, 1 ≤ number →
    (answer number).HoldsPage
      (payloadsOn size payloads number)
      (pageCount size payloads)

theorem Reply.HoldsPage.isPage
    {reply : Reply}
    {items : List Value}
    {total : Nat}
    (hHolds : reply.HoldsPage items total) :
    reply.IsPage items (some total) := by
  rcases hHolds with
    ⟨response, document, hReply, hStatus, hBody, hItems,
      hTotal⟩
  exact ⟨document, ⟨response, hReply, hStatus, hBody⟩,
    hItems, hTotal⟩

/-
  The answers of a server that gives payloads in pages. It
  tells how many there are, unless there are no payloads.
-/
def ServesPages
    (size : Nat)
    (payloads : List Value)
    (answer : Nat → Reply) : Prop :=
  ∀ number, 1 ≤ number →
    ∃ total?,
      (answer number).IsPage
        (payloadsOn size payloads number) total? ∧
      (payloads ≠ [] →
        total? = some (pageCount size payloads : Int))

theorem AnswersInPages.servesPages
    {size : Nat}
    {payloads : List Value}
    {answer : Nat → Reply}
    (hAnswers : AnswersInPages size payloads answer) :
    ServesPages size payloads answer :=
  fun number hNumber =>
    ⟨_, (hAnswers number hNumber).isPage, fun _ => rfl⟩

def countedPages : Option Int → Int
  | none => 1
  | some total => if total = 0 then 1 else total

theorem Client.totalPages_eq
    {document : Value}
    {total? : Option Int}
    (hTotal :
      document.get? "totalPages" = total?.map .int) :
    totalPages document = .ok (countedPages total?) := by
  rw [totalPages, hTotal]
  cases total? with
  | none => rfl
  | some total =>
      rw [Option.map_some, Value.orElse, countedPages]
      by_cases hZero : total = 0
      · subst hZero
        rfl
      · have hTruthy : (Value.int total).truthy := by
          simpa [Value.truthy] using hZero
        rw [if_pos hTruthy, if_neg hZero]
        rfl

theorem Reply.IsPage.givesPage
    {reply : Reply}
    {items : List Value}
    {total? : Option Int}
    (hPage : reply.IsPage items total?) :
    reply.GivesPage ⟨items, countedPages total?⟩ := by
  rcases hPage with ⟨document, hTells, hItems, hTotal⟩
  refine ⟨document, hTells, ?_,
    Client.totalPages_eq hTotal⟩
  rw [Client.pageItems?, hItems]

namespace ServesPages

variable {size : Nat}
variable {payloads : List Value}
variable {number : Nat}

------------------------------------------------------------
-- Fetching
------------------------------------------------------------

/- What is after a page is after the pages before it. -/
theorem payloadsOn_append
    (size : Nat)
    (payloads : List Value)
    (hNumber : 1 ≤ number) :
    payloadsOn size payloads number ++
        payloads.drop (number * size) =
      payloads.drop ((number - 1) * size) := by
  have hNext : number * size = (number - 1) * size + size := by
    rw [← Nat.succ_mul, Nat.succ_eq_add_one,
      Nat.sub_add_cancel hNumber]
  rw [payloadsOn, hNext, ← List.drop_drop,
    List.take_append_drop]

theorem isLast_of_eq
    {total? : Option Int}
    (hTotal : payloads ≠ [] →
      total? = some (pageCount size payloads : Int))
    (hNumber : number = max 1 (pageCount size payloads)) :
    Client.Page.isLast
      ⟨payloadsOn size payloads number, countedPages total?⟩
      number := by
  by_cases hNone : payloads = []
  · subst hNone
    simp [Client.Page.isLast, payloadsOn]
  · rw [hTotal hNone, countedPages]
    simp only [Client.Page.isLast, Bool.or_eq_true,
      decide_eq_true_eq]
    left
    split
    · omega
    · omega

theorem isLast_of_lt
    {total? : Option Int}
    (hSize : 1 ≤ size)
    (hTotal : payloads ≠ [] →
      total? = some (pageCount size payloads : Int))
    (hNumber : 1 ≤ number)
    (hMore : number < pageCount size payloads) :
    Client.Page.isLast
        ⟨payloadsOn size payloads number,
          countedPages total?⟩
        number = false := by
  have hBefore : (number - 1) * size < payloads.length := by
    apply lt_of_lt_pageCount hSize
    omega
  have hItems :
      (payloadsOn size payloads number).isEmpty = false := by
    rw [List.isEmpty_eq_false_iff, ← List.length_pos_iff,
      payloadsOn, List.length_take, List.length_drop]
    omega
  have hSome : payloads ≠ [] := by
    apply List.ne_nil_of_length_pos
    omega
  have hCount :
      ¬ ((pageCount size payloads : Nat) : Int) ≤ number := by
    omega
  have hNotZero :
      ((pageCount size payloads : Nat) : Int) ≠ 0 := by
    omega
  rw [hTotal hSome, countedPages, if_neg hNotZero,
    Client.Page.isLast, hItems, decide_eq_false hCount]
  rfl

/-
  The pages before the last one lead on, and they hold the
  payloads up to it.
-/
theorem leadOn
    {answer : Nat → Reply}
    (hServes : ServesPages size payloads answer)
    (hSize : 1 ≤ size)
    {more : Nat}
    (hNumber : 1 ≤ number)
    (hMore :
      number + more ≤ max 1 (pageCount size payloads)) :
    ∃ items,
      LeadOn number
          ((List.range' number more).map answer) items ∧
        items ++ payloads.drop ((number + more - 1) * size) =
          payloads.drop ((number - 1) * size) := by
  induction more generalizing number with
  | zero => exact ⟨[], .nil, rfl⟩
  | succ more ih =>
      rcases hServes number hNumber with
        ⟨total?, hPage, hTotal⟩
      have hNext : 1 ≤ number + 1 := by omega
      rcases ih hNext (by omega) with
        ⟨items, hLead, hItems⟩
      refine ⟨payloadsOn size payloads number ++ items, ?_,
        ?_⟩
      · rw [List.range'_succ, List.map_cons]
        exact .cons hPage.givesPage
          (isLast_of_lt hSize hTotal hNumber (by omega))
          hLead
      · rw [Nat.add_right_comm, Nat.add_sub_cancel]
          at hItems
        rw [List.append_assoc, ← Nat.add_assoc,
          Nat.add_sub_cancel, hItems, Nat.add_sub_cancel,
          payloadsOn_append size payloads hNumber]

theorem run_fetch
    {answer : Nat → Reply}
    (hServes : ServesPages size payloads answer)
    (client : Client)
    (pageSize : Value)
    (hSize : 1 ≤ size)
    {session : Session}
    {later : List Reply}
    (hReplies : session.replies =
      (pageNumbers size payloads).map answer ++ later) :
    ∃ after,
      (client.fetch pageSize).run session =
          .ok payloads after ∧
        session.Answered
          ((pageNumbers size payloads).map
            (client.pageRequest pageSize session.token))
          ((pageNumbers size payloads).map answer) after := by
  obtain ⟨more, hMore⟩ :
      ∃ more, max 1 (pageCount size payloads) = more + 1 :=
    ⟨max 1 (pageCount size payloads) - 1, by omega⟩
  have hNumbers : (pageNumbers size payloads).map answer =
      (List.range' 1 more).map answer ++
        [answer (1 + more)] := by
    rw [pageNumbers, hMore, List.range'_1_concat,
      List.map_append]
    rfl
  have hMost : 1 + more ≤ max 1 (pageCount size payloads) :=
    by omega
  rcases hServes.leadOn hSize (Nat.le_refl 1) hMost with
    ⟨items, hLead, hItems⟩
  rcases hServes (1 + more) (by omega) with
    ⟨total?, hPage, hTotal⟩
  have hLength :
      ((List.range' 1 more).map answer).length = more := by
    rw [List.length_map, List.length_range']
  have hLast : Client.Page.isLast
      ⟨payloadsOn size payloads (1 + more),
        countedPages total?⟩
      (1 + ((List.range' 1 more).map answer).length) := by
    rw [hLength]
    exact isLast_of_eq hTotal (by omega)
  rw [hNumbers, List.append_assoc] at hReplies
  rcases hLead.run_fetch client pageSize hReplies
      hPage.givesPage hLast with ⟨after, hFetch, hAfter⟩
  have hLeft : (payloads.drop (more * size)).length ≤
      size := by
    have hAll := length_le_pageCount_mul hSize payloads
    have hPages :
        pageCount size payloads * size ≤ (more + 1) * size :=
      Nat.mul_le_mul_right size (by omega)
    rw [Nat.succ_mul] at hPages
    rw [List.length_drop]
    omega
  have hAll : items ++ payloadsOn size payloads (1 + more) =
      payloads := by
    rw [Nat.add_sub_cancel_left] at hItems
    rw [payloadsOn, Nat.add_sub_cancel_left,
      List.take_of_length_le hLeft, hItems, Nat.sub_self,
      Nat.zero_mul, List.drop_zero]
  rw [hAll] at hFetch
  rw [hLength] at hAfter
  rw [hNumbers, pageNumbers, hMore]
  exact ⟨after, hFetch, hAfter⟩

end ServesPages

------------------------------------------------------------
-- Collections
------------------------------------------------------------

def NamesSystem (collections : List Collection) : Prop :=
  ∀ collection ∈ collections, collection.system →
    ∃ name, collection.name = .text name

namespace Client

theorem texts_eq_ok_iff (values : List Value) :
    (∃ texts, Value.texts values = .ok texts) ↔
      ∀ value ∈ values, ∃ text, value = .text text := by
  unfold Value.texts
  generalize (0 : Nat) = start
  induction values generalizing start with
  | nil => exact iff_of_true ⟨[], rfl⟩ nofun
  | cons value rest ih =>
      rw [List.zipIdx_cons, List.mapM_cons,
        List.forall_mem_cons, ← ih (start + 1)]
      cases value with
      | text text =>
          constructor
          · rintro ⟨texts, hTexts⟩
            rcases Fallible.bind_eq_ok.mp hTexts with
              ⟨_, _, hRest⟩
            rcases Fallible.bind_eq_ok.mp hRest with
              ⟨more, hMore, _⟩
            exact ⟨⟨text, rfl⟩, more, hMore⟩
          · rintro ⟨_, more, hMore⟩
            refine ⟨text :: more, ?_⟩
            rw [Fallible.bind_eq_ok]
            refine ⟨text, rfl, ?_⟩
            rw [Fallible.bind_eq_ok]
            exact ⟨more, hMore, rfl⟩
      | _ => simp

theorem texts_systemNames_iff
    (collections : List Collection) :
    (∃ names,
      Value.texts
          ((collections.filter Collection.system).map
            Collection.name) = .ok names) ↔
      NamesSystem collections := by
  rw [texts_eq_ok_iff, List.forall_mem_map]
  simp only [NamesSystem, List.mem_filter, and_imp]

theorem run_dropSystem
    (session : Session)
    {collections : List Collection}
    (hNames : NamesSystem collections) :
    ∃ after,
      (dropSystem collections).run session =
          .ok (collections.filter fun collection =>
            !collection.system) after ∧
        session.Answered [] [] after := by
  rcases (texts_systemNames_iff collections).mpr hNames with
    ⟨names, hTexts⟩
  unfold dropSystem
  dsimp only
  rw [hTexts]
  by_cases hNone :
      (collections.filter Collection.system).isEmpty
  · rw [hNone]
    exact ⟨session, rfl, .refl session⟩
  · rw [Bool.eq_false_iff.mpr hNone]
    exact ⟨_, rfl, rfl, (List.append_nil _).symm, rfl⟩

theorem run_readAll
    {levels : Nat}
    {client : Client}
    {session after : Session}
    {payloads : List Value}
    {collections : List Collection}
    (hFetch : (client.fetch defaultPageSize).run session =
      .ok payloads after)
    (hRead : readCollections levels (.list payloads) =
      .ok collections) :
    (client.readAll levels).run session =
      .ok collections after := by
  unfold readAll
  rw [Stateful.run_bind_of_ok
    (Stateful.run_tryCatch_of_ok _ hFetch), hRead]
  rfl

/-
  The collections of a server that answers in pages are
  those of its payloads, without the ones of the system
  where these are not wanted.
-/
theorem run_collections
    {levels : Nat}
    (client : Client)
    {session : Session}
    {size : Nat}
    (hSize : 1 ≤ size)
    {payloads : List Value}
    {answer : Nat → Reply}
    (hAnswers : AnswersInPages size payloads answer)
    {later : List Reply}
    (hReplies : session.replies =
      (pageNumbers size payloads).map answer ++ later)
    {collections : List Collection}
    (hRead : readCollections levels (.list payloads) =
      .ok collections)
    {names : Collection → String}
    (hNames : ∀ collection ∈ collections,
      collection.name = .text (names collection))
    (includeSystem : Bool) :
    ∃ after,
      (client.collections levels includeSystem).run session =
          .ok (collections.filter fun collection =>
            includeSystem || !collection.system) after ∧
        session.Answered
          ((pageNumbers size payloads).map
            (client.pageRequest defaultPageSize
              session.token))
          ((pageNumbers size payloads).map answer) after := by
  rcases hAnswers.servesPages.run_fetch client
      defaultPageSize hSize hReplies with
    ⟨fetched, hFetch, hAnswered⟩
  unfold Client.collections
  rw [Stateful.run_bind_of_ok (run_readAll hFetch hRead)]
  cases includeSystem with
  | true =>
      rw [List.filter_eq_self.mpr fun _ _ => Bool.true_or _]
      exact ⟨fetched, rfl, hAnswered⟩
  | false =>
      have hTexts : NamesSystem collections :=
        fun collection hMem _ => ⟨_, hNames collection hMem⟩
      rcases run_dropSystem fetched hTexts with
        ⟨after, hDrop, hKept⟩
      have hBoth := hAnswered.trans hKept
      rw [List.append_nil, List.append_nil] at hBoth
      exact ⟨after, hDrop, hBoth⟩

end Client

end PocketDart
