import SpiderL3S.Socket
import SpiderL3S.Tx.Commands

/- The calls of `socket.c` as the application modules see them: what a call
   returns for the device's answer, and what it does to the device's
   descriptors. An application function makes each call at most once, so the
   device's part in it is one answer a call (`Answers`), and what the function
   does to descriptors is the list of the ones the device has opened for it and
   the ones it has asked the device to close, in order. `int` has 16 bits and
   `long` 32. -/
namespace SpiderL3S

/-- What a call has done to a descriptor of the device. -/
inductive SocketOp where
  | opened (sd : Int32)
  | closed (sd : Int32)
  deriving DecidableEq, Repr

/-- The device's answers: the 32-bit status of each reply, and the address in
the reply to `gethostbyname`. -/
structure Answers where
  gethostbyname : Int32
  outputAddress : UInt32
  socket : Int32
  setsockopt : Int32
  bind : Int32
  listen : Int32
  accept : Int32
  closesocket : Int32
  deriving DecidableEq, Repr

/-- A device that does what it is asked, with descriptor `sd`. -/
def Answers.success (sd : Int32) : Answers := ⟨1, 0x0A000001, sd, 0, 0, 0, sd, 0⟩

abbrev EFAIL : Int16 := -1

/-- `gethostbyname`, for a name of `usNameLen` bytes. -/
def Answers.gethostbynameRet (a : Answers) (usNameLen : UInt16) : Int16 :=
  if hostnameMaxLength < usNameLen then EFAIL else a.gethostbyname.toInt16

/-- `setsockopt`, whose `INT16` result may lose the sign of the status. -/
def Answers.setsockoptRet (a : Answers) : Int16 :=
  if 0 ≤ a.setsockopt then 0 else a.setsockopt.toInt16

/-- The descriptor a reply announces: a status that is not negative. -/
def openedBy (status : Int32) : List SocketOp := if 0 ≤ status then [.opened status] else []

/-! Socket addresses. -/

structure Sockaddr where
  saFamily : UInt16
  saData : List UInt8
  deriving DecidableEq, Repr

/-- `memset(&addr, 0, sizeof(sockaddr))`. -/
def Sockaddr.zero : Sockaddr := ⟨0, List.replicate 14 0⟩

abbrev afInet : UInt16 := 2

/-- The address of a host: the port and the four address bytes, each with the
high end first, in front of zeros. -/
def Sockaddr.host (usport : UInt16) (ip : List UInt8) : Sockaddr :=
  ⟨afInet, (uint16Bytes usport).reverse ++ ip ++ List.replicate (12 - ip.length) 0⟩

end SpiderL3S
