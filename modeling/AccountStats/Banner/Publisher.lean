import AccountStats.Banner.Basic
/-
How the delivery of a banner event fails. Delivery is attempted once.
-/
namespace AccountStats.Banner

inductive PublishError where
  | delivery (message : String)
deriving DecidableEq, Repr

namespace PublishError

def text : PublishError → String
  | .delivery message => "failed to deliver event: " ++ message

end PublishError

end AccountStats.Banner
