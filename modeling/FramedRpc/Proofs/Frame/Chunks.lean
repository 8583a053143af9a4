import FramedRpc.Proofs.Frame.Section

namespace FramedRpc.Deframer

theorem feed_append (d : Deframer) (a b : Bytes) :
    d.feed (a ++ b) = (((d.feed a).1.feed b).1, (d.feed a).2 ++ ((d.feed a).1.feed b).2) := by
  fun_induction feed d a with
  | case1 d => simp
  | case2 d byte rest phase step ih =>
    rw [List.cons_append, feed_cons, step]
    exact ih
  | case3 d byte rest p step after packets fed ih =>
    have later : d.emitted.feed (rest ++ b) = _ := ih
    rw [List.cons_append, feed_cons, step]
    simp only [proceed, later, fed, List.cons_append]
  | case4 d byte rest fault again step ih =>
    rw [List.append_assoc] at ih
    rw [List.cons_append, feed_cons, step]
    exact ih

theorem feedPieces_flatten (d : Deframer) (pieces : List Bytes) :
    d.feedPieces pieces = d.feed pieces.flatten := by
  induction pieces generalizing d with
  | nil => rw [feedPieces, List.flatten_nil, feed]
  | cons piece rest ih =>
    rw [feedPieces, List.flatten_cons, feed_append, ← ih]

end FramedRpc.Deframer
