import Dossier.Program.Input
import Dossier.Proofs.Ingress.Recorded
import Dossier.Proofs.Json.Printing

/-! # One line for each reply

What is written in a conversation is, for every line that is not blank, its reply and a line feed; no reply has a line
feed in it. So whoever cuts what was written at the line feeds has just the replies, in the order of the lines. Main
statement: `run_replies`.
-/

namespace Dossier.Ingress

open Program (lineFeed)

/-- The bytes of a text, in UTF-8. -/
def bytes (text : String) : List UInt8 :=
  text.toUTF8.data.toList

theorem bytes_append (text more : String) : bytes (text ++ more) = bytes text ++ bytes more := by
  simp [bytes]

theorem bytes_eq_flatMap (text : String) : bytes text = text.toList.flatMap String.utf8EncodeChar := by
  rw [bytes, String.toUTF8, ← String.utf8Encode_toList, List.utf8Encode, List.toList_data_toByteArray]

theorem lineFeed_ne {n : Nat} (low : 128 ≤ n) (high : n < 256) : lineFeed ≠ UInt8.ofNat n := by
  intro same
  have value : lineFeed.toNat = n := by
    rw [same]
    exact UInt8.toNat_ofNat_of_lt' high
  have ten : lineFeed.toNat = 10 := rfl
  omega

/-- No character but the line feed is written with its byte. -/
theorem eq_of_lineFeed_mem {c : Char} (member : lineFeed ∈ String.utf8EncodeChar c) : c = '\n' := by
  simp only [String.utf8EncodeChar] at member
  split at member
  · apply Char.ext
    apply UInt32.toNat_inj.mp
    have same : lineFeed = UInt8.ofNat c.val.toNat := List.mem_singleton.mp member
    have value := congrArg UInt8.toNat same
    rw [UInt8.toNat_ofNat_of_lt' (by simp only [UInt8.size]; omega)] at value
    exact value.symm
  -- the bytes of a longer character are past all short characters
  · exfalso
    split at member
    · simp only [List.mem_cons, List.not_mem_nil, or_false] at member
      rcases member with same | same
      all_goals exact lineFeed_ne (by omega) (by omega) same
    · split at member
      · simp only [List.mem_cons, List.not_mem_nil, or_false] at member
        rcases member with same | same | same
        all_goals exact lineFeed_ne (by omega) (by omega) same
      · simp only [List.mem_cons, List.not_mem_nil, or_false] at member
        rcases member with same | same | same | same
        all_goals exact lineFeed_ne (by omega) (by omega) same

theorem lineFeed_not_mem_bytes {text : String} (one : '\n' ∉ text.toList) : lineFeed ∉ bytes text := by
  intro member
  rw [bytes_eq_flatMap] at member
  obtain ⟨c, inside, byte⟩ := List.mem_flatMap.mp member
  exact one (eq_of_lineFeed_mem byte ▸ inside)

/-- No reply has a line feed in it. -/
theorem lineFeed_not_mem_reply (reply : Reply) : lineFeed ∉ bytes reply.text :=
  lineFeed_not_mem_bytes reply.toJson.lineFeed_not_mem_text

/-- Some replies, each on a line. -/
def framed (replies : List Reply) : String :=
  String.join (replies.map fun reply => reply.text ++ "\n")

theorem framed_cons (reply : Reply) (replies : List Reply) :
    framed (reply :: replies) = reply.text ++ "\n" ++ framed replies := by
  simp [framed, String.join_cons]

theorem bytes_framed (replies : List Reply) :
    bytes (framed replies) = replies.flatMap fun reply => bytes reply.text ++ [lineFeed] := by
  induction replies with
  | nil => rfl
  | cons reply replies ih =>
      rw [framed_cons, bytes_append, bytes_append, ih]
      rfl

/-- What is cut at the line feeds is the replies, and nothing behind the last of them. -/
theorem splitOn_framed (replies : List Reply) :
    (bytes (framed replies)).splitOn lineFeed = replies.map (bytes ·.text) ++ [[]] := by
  have joined : bytes (framed replies) =
      [lineFeed].intercalate (replies.map (bytes ·.text) ++ [[]]) := by
    rw [bytes_framed]
    induction replies with
    | nil => rfl
    | cons reply replies ih =>
        rw [List.map_cons, List.cons_append, List.flatMap_cons, ih,
          List.intercalate_cons_of_ne_nil (by simp)]
  rw [joined]
  refine List.splitOn_intercalate lineFeed ?_ (by simp)
  intro line member
  rcases List.mem_append.mp member with written | last
  · obtain ⟨reply, -, rfl⟩ := List.mem_map.mp written
    exact lineFeed_not_mem_reply reply
  · rw [List.mem_singleton.mp last]
    exact List.not_mem_nil

variable {π : Type}

/-- What is asked in some lines: those that are not blank, without the blanks around them. -/
def asked (lines : List String) : List String :=
  (lines.map Text.trim).filter (!·.isEmpty)

theorem asked_cons (line : String) (lines : List String) :
    asked (line :: lines) =
      if (Text.trim line).isEmpty then asked lines else Text.trim line :: asked lines := by
  cases blank : (Text.trim line).isEmpty with
  | true => simp [asked, blank]
  | false => simp [asked, blank]

/-- The replies to what is asked, each by the service as what was asked before has left it. -/
def repliesTo (c : Collaborators π) (s : Service) : List String → List Reply
  | [] => []
  | line :: rest => (answer c line s).1 :: repliesTo c (answer c line s).2 rest

theorem length_repliesTo (c : Collaborators π) (s : Service) (asked : List String) :
    (repliesTo c s asked).length = asked.length := by
  induction asked generalizing s with
  | nil => rfl
  | cons line rest ih => exact congrArg Nat.succ (ih _)

theorem repliesTo_getElem? (c : Collaborators π) (s : Service) (asked : List String) (i : Nat) :
    (repliesTo c s asked)[i]? =
      asked[i]?.map fun line => (answer c line (answerAll c s (asked.take i))).1 := by
  induction asked generalizing s i with
  | nil => rfl
  | cons line rest ih =>
      cases i with
      | zero => rfl
      | succ i => exact ih _ i

theorem answerAll_cons (c : Collaborators π) (s : Service) (line : String) (rest : List String) :
    answerAll c s (line :: rest) = answerAll c (answer c line s).2 rest :=
  List.foldl_cons ..

theorem converse_eq (c : Collaborators π) (lines : List String) (written : String) (s : Service) :
    converse c none lines written s =
      ((written ++ framed (repliesTo c s (asked lines)), .finished), answerAll c s (asked lines)) := by
  induction lines generalizing written s with
  | nil => simp [converse, asked, repliesTo, framed, answerAll]; rfl
  | cons line rest ih =>
      cases blank : (Text.trim line).isEmpty with
      | true =>
          have skipped : converse c none (line :: rest) written s = converse c none rest written s := by
            simp only [converse, blank, if_true]
          rw [skipped, asked_cons, if_pos blank, ih]
      | false =>
          have answered : converse c none (line :: rest) written s =
              converse c none rest (written ++ (answer c (Text.trim line) s).1.text ++ "\n")
                (answer c (Text.trim line) s).2 := by
            simp only [converse, blank, Bool.false_eq_true, if_false, bind, StateT.bind, write?,
              Option.any_none]
            rcases answer c (Text.trim line) s with ⟨reply, t⟩
            rfl
          rw [answered, asked_cons, if_neg (by simp [blank]), ih, answerAll_cons, repliesTo, framed_cons]
          simp only [String.append_assoc]

/-- A conversation of any lines: what is written is for each line that is not blank its reply and a line feed, so
what is cut at the line feeds is the replies. The reply to a line is the answer to it without the blanks around it,
by the service as the lines before have left it. -/
theorem run_replies (c : Collaborators π) (lines : List String) (s : Service) :
    let begun := { s with log := s.log ++ [⟨.info, "Command ingress started", []⟩] }
    let ended := answerAll c begun (asked lines)
    let given := repliesTo c begun (asked lines)
    run c none lines s = ((framed given, .finished),
      { ended with log := ended.log ++ [⟨.info, "Command ingress stopped", []⟩] }) ∧
    bytes (framed given) = given.flatMap (fun reply => bytes reply.text ++ [lineFeed]) ∧
    (∀ reply : Reply, lineFeed ∉ bytes reply.text) ∧
    (bytes (framed given)).splitOn lineFeed = given.map (bytes ·.text) ++ [[]] ∧
    given.length = (asked lines).length ∧
    ∀ i, given[i]? = (asked lines)[i]?.map fun line =>
      (answer c line (answerAll c begun ((asked lines).take i))).1 := by
  intro begun ended given
  have conversed := converse_eq c lines "" begun
  rw [String.empty_append] at conversed
  refine ⟨?_, bytes_framed given, lineFeed_not_mem_reply, splitOn_framed given,
    length_repliesTo c begun _, repliesTo_getElem? c begun _⟩
  have told : Service.tell .info "Command ingress started" [] s = ((), begun) := rfl
  simp only [run, bind, StateT.bind, told, conversed]
  rfl

/-- Two lines of blanks and one with a question between blanks are answered with one line. -/
theorem indented_line_replied :
    let c : Collaborators Endpoint := .reliable [] (fun _ => .ok .ready) dayClock
    (run c none ["  ", "\t" ++ resultsLine ++ " \r", ""] { store := .empty }).1 =
      ("\x7b\"results\":[]\x7d\n", .finished) := by
  intro c
  have asking : asked ["  ", "\t" ++ resultsLine ++ " \r", ""] = [resultsLine] := by decide +kernel
  obtain ⟨ran, -⟩ := run_replies c ["  ", "\t" ++ resultsLine ++ " \r", ""] { store := .empty }
  rw [asking] at ran
  have done := answer_of_ok (c := c) (s := { store := .empty, log := [⟨.info, "Command ingress started", []⟩] })
    read_resultsLine rfl
  have sorted : Row.sortByTime [] = [] := List.mergeSort_nil
  have given : repliesTo c { store := .empty, log := [⟨.info, "Command ingress started", []⟩] } [resultsLine] =
      [.results []] := by
    rw [repliesTo, done]
    exact congrArg (fun rows => [Reply.results rows]) sorted
  have text : framed [.results []] = "\x7b\"results\":[]\x7d\n" := by decide +kernel
  rw [ran]
  exact congrArg (·, Ending.finished) ((congrArg framed given).trans text)

end Dossier.Ingress
