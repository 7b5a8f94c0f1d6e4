import VirtueStack.Payment.Backing
import VirtueStack.Billing.Hourly
import VirtueStack.Invoice.Numbers
import VirtueStack.Billing.Lists
import VirtueStack.Invoice.Totals
import VirtueStack.Tasks.Final
import VirtueStack.Compute.CreateAgain
import VirtueStack.Compute.DiskKept
import VirtueStack.Compute.Cancel
import VirtueStack.Compute.Confinement
import VirtueStack.Compute.FailoverRun
import VirtueStack.Ipam.Subnets
import VirtueStack.Nodes.Misses
import VirtueStack.Compute.CreateOnce
import VirtueStack.Compute.DeletionOrder
import VirtueStack.Auth.Tokens
import VirtueStack.Backup.CreateAtomic
import VirtueStack.Backup.SafeRemoval
import VirtueStack.Compute.Release
import VirtueStack.Ipam.Primary
import VirtueStack.Invoice.Settlement
import VirtueStack.RateLimit.Window
import VirtueStack.Agent.Prefixes
import VirtueStack.Nodes.CircuitBreaker
import VirtueStack.Webhook.SafeDial
import VirtueStack.Agent.CloneSize
import VirtueStack.Nodes.ConnectionPool
import VirtueStack.Auth.Accounts
import VirtueStack.Agent.NWFilter
import VirtueStack.Webhook.Retry
import VirtueStack.Agent.CPUSamplers
import VirtueStack.RDNS.Serial
