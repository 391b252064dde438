import SpiderL3S.Lib.Runs
import SpiderL3S.Lib.Code
import SpiderL3S.Lib.Window
import SpiderL3S.Lib.CString
import SpiderL3S.Hci
import SpiderL3S.Evnt
import SpiderL3S.ReplyIsolation
import SpiderL3S.Web.Request
import SpiderL3S.Web.Scan
import SpiderL3S.Web.Header
import SpiderL3S.Web.Bounds
import SpiderL3S.Web.Isolation
import SpiderL3S.Web.Parse
import SpiderL3S.Spi.Receive
import SpiderL3S.Tx.Frame
import SpiderL3S.Spi.Padding
import SpiderL3S.Tx.Commands
import SpiderL3S.Tx.Packets
import SpiderL3S.Tx.Bounds
import SpiderL3S.Tx.Stale
import SpiderL3S.Tx.Patch
import SpiderL3S.Nvmem
import SpiderL3S.Security.Fips
import SpiderL3S.Security.SmartConfig
import SpiderL3S.Spi.Irq
import SpiderL3S.Spi.MissedEdge
import SpiderL3S.Spi.ExactlyOnce
import SpiderL3S.Spi.Reply
import SpiderL3S.App.Ntp
import SpiderL3S.App.Spider
import SpiderL3S.App.LinkFlags
import SpiderL3S.App.Waits
import SpiderL3S.Socket
import SpiderL3S.Select
import SpiderL3S.Credits
import SpiderL3S.Spi.Idle
import SpiderL3S.Spi.Overwrite
import SpiderL3S.App.Leaks
import SpiderL3S.Lib.Regions
import SpiderL3S.Tx.Decode
import SpiderL3S.Tx.Layouts
import SpiderL3S.App.ArpWait
import SpiderL3S.App.NtpReply
import SpiderL3S.Deferred
import SpiderL3S.Send
import SpiderL3S.Web.Auth
import SpiderL3S.Web.Client
import SpiderL3S.Web.Terminated
import SpiderL3S.Web.Timeout
import SpiderL3S.Mdns.Announcement
import SpiderL3S.Web.Exchange
import SpiderL3S.App.WebService
import SpiderL3S.App.HttpGet
import SpiderL3S.NvmemFiles
import SpiderL3S.Spi.Session
import SpiderL3S.Spi.Realized
import SpiderL3S.Spi.Bus
import SpiderL3S.App.Clock
import SpiderL3S.App.Setup
